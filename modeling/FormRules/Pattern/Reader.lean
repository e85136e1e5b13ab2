import FormRules.Numeric.Decimal
import FormRules.Pattern.Property
import FormRules.Pattern.Syntax
import FormRules.Text.Blank

/-!
# Reading patterns

The grammar of regular expressions.  A pattern outside the grammar has no
tree; look-around and back-references are outside of it.
-/

namespace FormRules.Pattern

/-! ## Scanning -/

/-- The rest of a pattern, whether white space in it counts, and the group names so far. -/
structure Scan where
  rest : List Char
  ignoreSpace : Bool
  names : List (List Char)

abbrev Read (α : Type) := StateT Scan Option α

namespace Read

def refuse {α : Type} : Read α := fun _ => none

def peek : Read (Option Char) := do
  return (← get).rest.head?

def char : Read Char := do
  match (← get).rest with
  | c :: _ => return c
  | [] => refuse

def skip : Read Unit :=
  modify fun s => { s with rest := s.rest.tail }

def dropSpace : Nat → List Char → List Char
  | 0, cs => cs
  | fuel + 1, cs =>
    match cs.dropWhile Text.isBlank with
    | '#' :: rest => dropSpace fuel ((rest.dropWhile fun c => c ≠ '\n').tail)
    | other => other

def skipSpace : Read Unit :=
  modify fun s =>
    if s.ignoreSpace then { s with rest := dropSpace (s.rest.length + 1) s.rest } else s

/-- Pass one character and what does not count after it. -/
def next : Read Unit := do
  skip
  skipSpace

def skipText (cs : List Char) : Read Bool := do
  let s ← get
  if cs.isPrefixOf s.rest then
    set { s with rest := s.rest.drop cs.length }
    return true
  else return false

def nextOrRefuse : Read Unit := do
  next
  let _ ← char

end Read

open Read

/-! ## Escapes -/

inductive Primitive where
  | literal (l : Literal)
  | anchor (a : Anchor)
  | shorthand (kind : Shorthand) (negated : Bool)
  | property (name : PropertyName) (negated : Bool)

def isMeta (c : Char) : Bool :=
  ['\\', '.', '+', '*', '?', '(', ')', '|', '[', ']', '{', '}', '^', '$', '#', '&', '-', '~'].contains c

/-- Whether a backslash may stand before a character that is no letter or digit. -/
def isEscapable (c : Char) : Bool :=
  isMeta c ||
    (c.toNat < 128 && !Text.isAsciiLetter c && !Text.isAsciiDigit c && c ≠ '<' && c ≠ '>')

def hexChar? (digits : List Char) : Option Char := do
  let n ← digits.foldlM (fun acc d => (Text.hexValue? d).map fun v => min (acc * 16 + v) 0x1000000) 0
  if n < 0xD800 || (0xDFFF < n && n ≤ 0x10FFFF) then some (Char.ofNat n) else none

def hexDigits : Nat → Read (List Char)
  | 0 => return []
  | count + 1 => do
    let c ← char
    if (Text.hexValue? c).isNone then refuse
    if count = 0 then next else nextOrRefuse
    return c :: (← hexDigits count)

def untilBrace : Nat → Read (List Char)
  | 0 => refuse
  | fuel + 1 => do
    let c ← char
    if c = '}' then return []
    next
    return c :: (← untilBrace fuel)

def inBraces : Read (List Char) := do
  next
  untilBrace ((← get).rest.length + 1)

def hexLiteral (count : Nat) : Read Literal := do
  nextOrRefuse
  if (← char) = '{' then
    let digits ← inBraces
    next
    match if digits.isEmpty then none else hexChar? digits with
    | some c => return ⟨c, false⟩
    | none => refuse
  else
    match hexChar? (← hexDigits count) with
    | some c => return ⟨c, count = 2⟩
    | none => refuse

def splitProperty (name : List Char) : PropertyName :=
  match splitAt2 '!' '=' name with
  | some (a, b) => .valued a b
  | none =>
    match splitAt1 ':' name <|> splitAt1 '=' name with
    | some (a, b) => .valued a b
    | none => .plain name
where
  splitAt1 (sep : Char) : List Char → Option (List Char × List Char)
    | [] => none
    | c :: cs =>
      if c = sep then some ([], cs) else (splitAt1 sep cs).map fun p => (c :: p.1, p.2)
  splitAt2 (a b : Char) : List Char → Option (List Char × List Char)
    | c :: d :: cs =>
      if c = a && d = b then some ([], cs) else (splitAt2 a b (d :: cs)).map fun p => (c :: p.1, p.2)
    | _ => none

def propertyEscape (negated : Bool) : Read Primitive := do
  nextOrRefuse
  let c ← char
  if c = '{' then
    let name ← inBraces
    skip
    return .property (splitProperty name) negated
  else if c = '\\' then refuse
  else
    next
    return .property (.plain [c]) negated

def isBoundaryLetter (c : Char) : Bool :=
  Text.isAsciiLetter c || c = '-'

def boundaryLetters : Nat → Read (List Char)
  | 0 => return []
  | fuel + 1 => do
    match ← peek with
    | none => return []
    | some c =>
      if isBoundaryLetter c then
        next
        return c :: (← boundaryLetters fuel)
      else return []

/-- Read what may follow the escape of a word boundary: braces with a name, or a repetition. -/
def boundaryKind : Read Anchor := do
  if (← peek) ≠ some '{' then return .wordBoundary
  let before ← get
  nextOrRefuse
  if !isBoundaryLetter (← char) then
    set before
    return .wordBoundary
  let name ← boundaryLetters ((← get).rest.length + 1)
  if (← char) ≠ '}' then refuse
  skip
  match String.ofList name with
  | "start" => return .wordStart
  | "end" => return .wordEnd
  | "start-half" => return .wordStartHalf
  | "end-half" => return .wordEndHalf
  | _ => refuse

def letterEscape? : Char → Option Nat
  | 'a' => some 7
  | 'f' => some 12
  | 't' => some 9
  | 'n' => some 10
  | 'r' => some 13
  | 'v' => some 11
  | _ => none

def escape : Read Primitive := do
  skip
  let c ← char
  match c with
  | 'x' => return .literal (← hexLiteral 2)
  | 'u' => return .literal (← hexLiteral 4)
  | 'U' => return .literal (← hexLiteral 8)
  | 'p' => propertyEscape false
  | 'P' => propertyEscape true
  | _ =>
    skip
    match c with
    | 'd' => return .shorthand .digit false
    | 'D' => return .shorthand .digit true
    | 's' => return .shorthand .space false
    | 'S' => return .shorthand .space true
    | 'w' => return .shorthand .word false
    | 'W' => return .shorthand .word true
    | 'A' => return .anchor .textStart
    | 'z' => return .anchor .textEnd
    | 'b' => return .anchor (← boundaryKind)
    | 'B' => return .anchor .notWordBoundary
    | '<' => return .anchor .wordStart
    | '>' => return .anchor .wordEnd
    | _ =>
      if isEscapable c then return .literal ⟨c, false⟩
      match letterEscape? c with
      | some n => return .literal ⟨Char.ofNat n, false⟩
      | none => refuse

def Primitive.toSyntax : Primitive → Syntax
  | .literal l => .literal l
  | .anchor a => .anchor a
  | .shorthand kind negated => .shorthand kind negated
  | .property name negated => .property name negated

/-! ## Bracketed classes -/

/-- Read a POSIX class in a bracketed one, or step back. -/
def posixItem? : Read (Option ClassItem) := fun s =>
  let attempt : Option (ClassItem × List Char) := do
    let rest ← match s.rest with
      | '[' :: ':' :: rest => some rest
      | _ => none
    let (negated, rest) := match rest with
      | '^' :: more => (true, more)
      | _ => (false, rest)
    let name := rest.takeWhile fun c => c ≠ ':'
    let after ← match rest.dropWhile fun c => c ≠ ':' with
      | ':' :: ']' :: after => some after
      | _ => none
    let text := String.ofList name
    if (CharSet.posix? text).isSome then some (.posix text negated, after) else none
  match attempt with
  | some (item, rest) => some (some item, { s with rest })
  | none => some (none, s)

def classPrimitive : Read Primitive := do
  let c ← char
  if c = '\\' then escape
  else
    skip
    return .literal ⟨c, false⟩

def Primitive.toItem : Primitive → Read ClassItem
  | .literal l => return .literal l
  | .shorthand kind negated => return .shorthand kind negated
  | .property name negated => return .property name negated
  | .anchor _ => refuse

def Primitive.toLiteral : Primitive → Read Literal
  | .literal l => return l
  | _ => refuse

/-- The character after the next one, without what does not count. -/
def peekSecond : Read (Option Char) := do
  let s ← get
  let rest := s.rest.tail
  return (if s.ignoreSpace then dropSpace (rest.length + 1) rest else rest).head?

def classRange : Read ClassItem := do
  let first ← classPrimitive
  skipSpace
  let c ← char
  let second ← peekSecond
  if c ≠ '-' || second = some ']' || second = some '-' then first.toItem
  else
    nextOrRefuse
    let last ← classPrimitive
    let lo ← first.toLiteral
    let hi ← last.toLiteral
    if lo.char ≤ hi.char then return .range lo hi else refuse

inductive ClassOp where
  | intersection
  | difference
  | symmetricDifference

def ClassOp.apply : ClassOp → ClassItem → ClassItem → ClassItem
  | .intersection, a, b => .intersection a b
  | .difference, a, b => .difference a b
  | .symmetricDifference, a, b => .symmetricDifference a b

abbrev Pending := Option (ClassItem × ClassOp)

def Pending.complete (pending : Pending) (items : List ClassItem) : ClassItem :=
  let right := ClassItem.ofItems items.reverse
  match pending with
  | some (left, op) => op.apply left right
  | none => right

/-- Pass hyphens, which stand for themselves at the start of a class. -/
def leadingHyphens : Nat → Read (List ClassItem)
  | 0 => return []
  | fuel + 1 => do
    if (← char) = '-' then
      nextOrRefuse
      return .literal ⟨'-', false⟩ :: (← leadingHyphens fuel)
    else return []

/-- Read the opening of a class: whether it is negated, and its first parts. -/
def classOpen : Read (Bool × List ClassItem) := do
  nextOrRefuse
  let negated := (← char) = '^'
  if negated then nextOrRefuse
  let hyphens ← leadingHyphens ((← get).rest.length + 1)
  if hyphens.isEmpty && (← char) = ']' then
    nextOrRefuse
    return (negated, [.literal ⟨']', false⟩])
  return (negated, hyphens)

def classOp? : Read (Option ClassOp) := do
  match (← get).rest with
  | '&' :: '&' :: _ => return some .intersection
  | '-' :: '-' :: _ => return some .difference
  | '~' :: '~' :: _ => return some .symmetricDifference
  | _ => return none

/-- Read the parts of a class up to its closing bracket; `items` are the ones read, in reverse. -/
def classBody : Nat → Pending → List ClassItem → Read ClassItem
  | 0, _, _ => refuse
  | fuel + 1, pending, items => do
    skipSpace
    let c ← char
    if c = '[' then
      match ← posixItem? with
      | some item => classBody fuel pending (item :: items)
      | none =>
        let (negated, first) ← classOpen
        let inner ← classBody fuel none first.reverse
        classBody fuel pending (.nested negated inner :: items)
    else if c = ']' then
      skip
      return pending.complete items
    else
      match ← classOp? with
      | some op =>
        skip
        skip
        classBody fuel (some (pending.complete items, op)) []
      | none =>
        let item ← classRange
        classBody fuel pending (item :: items)

def bracketed : Read Syntax := do
  let fuel := (← get).rest.length + 1
  let (negated, first) ← classOpen
  return .bracketed negated (← classBody fuel none first.reverse)

/-! ## Repetitions -/

def skipLazy : Read Unit := do
  if (← peek) = some '?' then skip

def countDigits : Nat → Read (List Char)
  | 0 => return []
  | fuel + 1 => do
    match ← peek with
    | none => return []
    | some c =>
      if Text.isAsciiDigit c then
        next
        return c :: (← countDigits fuel)
      else return []

def skipBlanks : Read Unit :=
  modify fun s => { s with rest := s.rest.dropWhile Text.isBlank }

def count : Read Nat := do
  skipBlanks
  let digits ← countDigits ((← get).rest.length + 1)
  skipBlanks
  let n := Decimal.value digits
  if digits.isEmpty || 4294967296 ≤ n then refuse else return n

def counted : Read (Nat × Option Nat) := do
  nextOrRefuse
  let least ← count
  let most ←
    if (← char) = ',' then
      nextOrRefuse
      if (← char) = '}' then pure none else some <$> count
    else pure (some least)
  if (← char) ≠ '}' then refuse
  next
  match most with
  | some most => if most < least then refuse else return (least, some most)
  | none => return (least, none)

/-- Repeat the last of some parts, which are given in reverse. -/
def repeatLast (least : Nat) (most : Option Nat) : List Syntax → Read (List Syntax)
  | [] => refuse
  | part :: parts =>
    if part.isRepeatable then return .repeated least most part :: parts else refuse

/-! ## Groups -/

def flagSettings : Nat → Bool → Bool → FlagSettings → Read FlagSettings
  | 0, _, _, _ => refuse
  | fuel + 1, negated, dangling, settings => do
    let c ← char
    if c = ':' || c = ')' then
      if dangling then refuse else return settings.reverse
    else if c = '-' then
      if negated then refuse
      skip
      flagSettings fuel true true settings
    else
      match Flag.ofChar? c with
      | none => refuse
      | some flag =>
        if (FlagSettings.get? settings flag).isSome then refuse
        skip
        flagSettings fuel negated false ((flag, !negated) :: settings)

def isNameChar (first : Bool) (c : Char) : Bool :=
  let letter := c = '_' || (lookupTable alphabetic c)
  if first then letter
  else letter || c = '.' || c = '[' || c = ']' || lookupTable numeric c
where
  lookupTable (set : Option CharSet) (c : Char) : Bool :=
    match set with
    | some s => s.toTable.contains c.toNat
    | none => false
  alphabetic : Option CharSet := lookup? binarySteps "alphabetic"
  numeric : Option CharSet := lookup? categorySteps "n"

def groupName : Read Unit := do
  let s ← get
  let name := s.rest.takeWhile fun c => c ≠ '>'
  let after := s.rest.drop name.length
  let valid := match name with
    | [] => false
    | c :: cs => isNameChar true c && cs.all (isNameChar false)
  if !valid || after.isEmpty || s.names.contains name then refuse
  set { s with rest := after.tail, names := name :: s.names }

inductive GroupOpening where
  | flags (settings : FlagSettings)
  | group (settings : FlagSettings) (captures : Bool)

def lookAround : List (List Char) :=
  [['?', '='], ['?', '!'], ['?', '<', '='], ['?', '<', '!']]

def groupOpening : Read GroupOpening := do
  let rest := (← get).rest
  if lookAround.any fun start => start.isPrefixOf rest then refuse
  if (← skipText ['?', 'P', '<']) || (← skipText ['?', '<']) then
    groupName
    return .group [] true
  if ← skipText ['?'] then
    let settings ← flagSettings ((← get).rest.length + 1) false false []
    let c ← char
    skip
    if c = ')' then
      if settings.isEmpty then refuse else return .flags settings
    else return .group settings false
  return .group [] true

/-! ## Expressions -/

mutual

def branches : Nat → Read (List Syntax)
  | 0 => refuse
  | fuel + 1 => do
    let branch := Syntax.ofParts (← parts fuel []).reverse
    if (← peek) = some '|' then
      skip
      return branch :: (← branches fuel)
    else return [branch]

/-- Read the parts of a branch; `done` are the ones read, in reverse. -/
def parts : Nat → List Syntax → Read (List Syntax)
  | 0, _ => refuse
  | fuel + 1, done => do
    skipSpace
    match ← peek with
    | none => return done
    | some ')' => return done
    | some '|' => return done
    | some '(' =>
      next
      match ← groupOpening with
      | .flags settings =>
        match FlagSettings.get? settings .ignoreSpace with
        | some b => modify fun s => { s with ignoreSpace := b }
        | none => pure ()
        parts fuel (.flags settings :: done)
      | .group settings captures =>
        let outer := (← get).ignoreSpace
        modify fun s =>
          { s with ignoreSpace := (FlagSettings.get? settings .ignoreSpace).getD outer }
        let body := Syntax.ofBranches (← branches fuel)
        if (← char) ≠ ')' then refuse
        skip
        modify fun s => { s with ignoreSpace := outer }
        parts fuel (.group settings captures body :: done)
    | some '[' => parts fuel ((← bracketed) :: done)
    | some '?' =>
      skip
      skipLazy
      parts fuel (← repeatLast 0 (some 1) done)
    | some '*' =>
      skip
      skipLazy
      parts fuel (← repeatLast 0 none done)
    | some '+' =>
      skip
      skipLazy
      parts fuel (← repeatLast 1 none done)
    | some '{' =>
      if !(done.head?.map Syntax.isRepeatable).getD false then refuse
      let (least, most) ← counted
      skipLazy
      parts fuel (← repeatLast least most done)
    | some '\\' => parts fuel ((← escape).toSyntax :: done)
    | some '.' =>
      skip
      parts fuel (.anyChar :: done)
    | some '^' =>
      skip
      parts fuel (.anchor .lineStart :: done)
    | some '$' =>
      skip
      parts fuel (.anchor .lineEnd :: done)
    | some c =>
      skip
      parts fuel (.literal ⟨c, false⟩ :: done)

end

def nestLimit : Nat := 250

def Syntax.ofChars? (cs : List Char) : Option Syntax := do
  let (tree, s) ← (branches (2 * cs.length + 4)).run ⟨cs, false, []⟩
  let tree := Syntax.ofBranches tree
  if s.rest.isEmpty && tree.depth ≤ nestLimit then some tree else none

end FormRules.Pattern
