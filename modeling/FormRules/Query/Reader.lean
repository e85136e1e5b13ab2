import FormRules.Query.Syntax
import FormRules.Query.Token

/-!
# Reading filters

The grammar of filters.  Operators bind by rank; a binding `as` is an operator
that binds least and takes all that follows it.
-/

namespace FormRules.Query

abbrev Take (α : Type) := StateT (List Token) Option α

namespace Take

def refuse {α : Type} : Take α := fun _ => none

/-- Run a step on the tokens of a block, which it has to use up. -/
def within {α : Type} (body : List Token) (step : Take α) : Take α := fun rest =>
  match step body with
  | some (a, []) => some (a, rest)
  | _ => none

def remaining : Take (List Token) := get

def skip : Take Unit := modify List.tail

def word (name : String) : Take Unit := fun ts =>
  match ts with
  | .word w :: rest => if w = name then some ((), rest) else none
  | _ => none

def word? (name : String) : Take Bool := fun ts =>
  match ts with
  | .word w :: rest => if w = name then some (true, rest) else some (false, ts)
  | _ => some (false, ts)

def symbol (text : String) : Take Unit := fun ts =>
  match ts with
  | .symbol s :: rest => if s = text then some ((), rest) else none
  | _ => none

def symbol? (text : String) : Take Bool := fun ts =>
  match ts with
  | .symbol s :: rest => if s = text then some (true, rest) else some (false, ts)
  | _ => some (false, ts)

def variableName : Take String := fun ts =>
  match ts with
  | .variable name :: rest => some (name, rest)
  | _ => none

end Take

open Take

/-! ## Operators -/

inductive Operator where
  | pipe
  | both
  | assign (how : Assignment)
  | alternative
  | or
  | and
  | compare (op : Comparison)
  | arithmetic (op : Arithmetic)
  | bind (pattern : Pattern)

namespace Operator

def rank : Operator → Nat
  | .pipe | .bind _ => 0
  | .both => 1
  | .assign _ => 2
  | .alternative => 3
  | .or => 4
  | .and => 5
  | .compare .equal | .compare .unequal => 6
  | .compare _ => 7
  | .arithmetic .add | .arithmetic .subtract => 8
  | .arithmetic .multiply | .arithmetic .divide => 9
  | .arithmetic .remainder => 10

/-- Whether operators of the same rank group to the right. -/
def groupsRight : Operator → Bool
  | .pipe | .bind _ | .assign _ => true
  | _ => false

def ofSymbol? : String → Option Operator
  | "|" => some .pipe
  | "," => some .both
  | "=" => some (.assign .set)
  | "|=" => some (.assign .update)
  | "+=" => some (.assign (.arithmetic .add))
  | "-=" => some (.assign (.arithmetic .subtract))
  | "*=" => some (.assign (.arithmetic .multiply))
  | "/=" => some (.assign (.arithmetic .divide))
  | "%=" => some (.assign (.arithmetic .remainder))
  | "//=" => some (.assign .alternative)
  | "//" => some .alternative
  | "==" => some (.compare .equal)
  | "!=" => some (.compare .unequal)
  | "<" => some (.compare .less)
  | "<=" => some (.compare .lessOrEqual)
  | ">" => some (.compare .greater)
  | ">=" => some (.compare .greaterOrEqual)
  | "+" => some (.arithmetic .add)
  | "-" => some (.arithmetic .subtract)
  | "*" => some (.arithmetic .multiply)
  | "/" => some (.arithmetic .divide)
  | "%" => some (.arithmetic .remainder)
  | _ => none

def apply : Operator → Term → Term → Term
  | .pipe, a, b => .pipe a b
  | .both, a, b => .both a b
  | .assign how, a, b => .assign how a b
  | .alternative, a, b => .alternative a b
  | .or, a, b => .or a b
  | .and, a, b => .and a b
  | .compare op, a, b => .compare op a b
  | .arithmetic op, a, b => .arithmetic op a b
  | .bind pattern, a, b => .bind a pattern b

end Operator

/-- Group the operands of a chain of operators that bind at least as tight as a rank. -/
def climb : Nat → Nat → Term → List (Operator × Term) → Term × List (Operator × Term)
  | 0, _, left, rest => (left, rest)
  | _ + 1, _, left, [] => (left, [])
  | fuel + 1, least, left, (op, next) :: rest =>
    if op.rank < least then (left, (op, next) :: rest)
    else
      let (right, rest) := climb fuel (if op.groupsRight then op.rank else op.rank + 1) next rest
      climb fuel least (op.apply left right) rest

def Term.ofChain (first : Term) (rest : List (Operator × Term)) : Term :=
  (climb (2 * rest.length + 2) 0 first rest).1

/-! ## Filters -/

def keywords : List String :=
  ["def", "reduce", "foreach", "import", "include", "as", "if", "then", "else", "elif", "end",
    "try", "catch", "label", "break", "or", "and", "__loc__"]

/-- Pass question marks; whether there was one. -/
def questionMarks : Nat → Take Bool
  | 0 => return false
  | fuel + 1 => do
    if ← symbol? "?" then
      let _ ← questionMarks fuel
      return true
    else return false

def Step.withMark (fuel : Nat) (step : Bool → Step) : Take Step := do
  return step (← questionMarks fuel)

def params : Take (List Param) := do
  match ← remaining with
  | .block '(' body :: _ =>
    skip
    within body (list body.length)
  | _ => return []
where
  one : Take Param := fun ts =>
    match ts with
    | .word name :: rest => if keywords.contains name then none else some (⟨name, false⟩, rest)
    | .variable name :: rest => some (⟨name, true⟩, rest)
    | _ => none
  list : Nat → Take (List Param)
    | 0 => refuse
    | fuel + 1 => do
      let p ← one
      if ← symbol? ";" then return p :: (← list fuel) else return [p]

def definedName : Take String := fun ts =>
  match ts with
  | .word name :: rest => if keywords.contains name then none else some (name, rest)
  | .format name :: rest => some (name, rest)
  | _ => none

mutual

/-- Read a filter; commas may end it. -/
def term (commas : Bool) : Nat → Take Term
  | 0 => refuse
  | fuel + 1 => do
    let first ← atom fuel
    let rest ← chain commas fuel
    return .ofChain first rest

def chain (commas : Bool) : Nat → Take (List (Operator × Term))
  | 0 => refuse
  | fuel + 1 => do
    match ← operator? commas fuel with
    | none => return []
    | some op =>
      let next ← atom fuel
      return (op, next) :: (← chain commas fuel)

def operator? (commas : Bool) : Nat → Take (Option Operator)
  | 0 => refuse
  | fuel + 1 => do
    match ← remaining with
    | .symbol s :: _ =>
      if s = "," && !commas then return none
      match Operator.ofSymbol? s with
      | some op =>
        skip
        return some op
      | none => return none
    | .word "or" :: _ =>
      skip
      return some .or
    | .word "and" :: _ =>
      skip
      return some .and
    | .word "as" :: _ =>
      skip
      let p ← pattern fuel
      symbol "|"
      return some (.bind p)
    | _ => return none

def atom : Nat → Take Term
  | 0 => refuse
  | fuel + 1 => do
    let (base, closed) ← head fuel
    if closed then return base
    let base ← if ← questionMarks fuel then pure (.attempt base none) else pure base
    match ← steps fuel with
    | [] => return base
    | first :: more => return .path base (first :: more)

/-- Read what a filter without operators starts with; whether nothing may be added to it. -/
def head : Nat → Take (Term × Bool)
  | 0 => refuse
  | fuel + 1 => do
    match ← remaining with
    | .symbol "-" :: _ =>
      skip
      return (.negate (← atom fuel), true)
    | .symbol ".." :: _ =>
      skip
      return (.descendants, false)
    | .symbol "." :: .text parts :: _ =>
      skip
      skip
      let key ← text none parts fuel
      let step ← Step.withMark fuel (.index key)
      return (.path .identity (step :: (← steps fuel)), true)
    | .symbol "." :: _ =>
      skip
      return (.identity, false)
    | .field name :: _ =>
      skip
      let step ← Step.withMark fuel (.index (.plain name))
      return (.path .identity (step :: (← steps fuel)), true)
    | .word "def" :: _ =>
      skip
      let name ← definedName
      let ps ← params
      symbol ":"
      let body ← term true fuel
      symbol ";"
      let rest ← term true fuel
      return (.define name ps body rest, true)
    | .word "if" :: _ =>
      skip
      return (← branches fuel, false)
    | .word "try" :: _ =>
      skip
      let body ← atom fuel
      if ← word? "catch" then return (.attempt body (some (← atom fuel)), true)
      else return (.attempt body none, true)
    | .word "label" :: _ =>
      skip
      let name ← variableName
      symbol "|"
      return (.label name (← term true fuel), true)
    | .word "break" :: _ =>
      skip
      return (.leave (← variableName), false)
    | .word "reduce" :: _ =>
      skip
      let (source, p, args) ← fold fuel
      match args with
      | [start, update] => return (.reduce source p start update, false)
      | _ => refuse
    | .word "foreach" :: _ =>
      skip
      let (source, p, args) ← fold fuel
      match args with
      | [start, update] => return (.foreach source p start update none, false)
      | [start, update, extract] => return (.foreach source p start update (some extract), false)
      | _ => refuse
    | .variable name :: _ =>
      skip
      return (.variable name, false)
    | .format name :: .text parts :: _ =>
      skip
      skip
      return (← text (some name) parts fuel, false)
    | .format name :: _ =>
      skip
      return (.call name [], false)
    | .word name :: _ =>
      if keywords.contains name then refuse
      skip
      return (.call name (← arguments fuel), false)
    | .number digits :: _ =>
      skip
      return (.number digits, false)
    | .text parts :: _ =>
      skip
      return (← text none parts fuel, false)
    | .block '[' [] :: _ =>
      skip
      return (.collect none, false)
    | .block '[' body :: _ =>
      skip
      return (.collect (some (← within body (term true fuel))), false)
    | .block '{' [] :: _ =>
      skip
      return (.object [], false)
    | .block '{' body :: _ =>
      skip
      return (.object (← within body (entries fuel)), false)
    | .block '(' body :: _ =>
      skip
      return (← within body (term true fuel), false)
    | _ => refuse

def branches : Nat → Take Term
  | 0 => refuse
  | fuel + 1 => do
    let condition ← term true fuel
    word "then"
    let thenCase ← term true fuel
    if ← word? "elif" then return .branch condition thenCase (← branches fuel)
    if ← word? "else" then
      let elseCase ← term true fuel
      word "end"
      return .branch condition thenCase elseCase
    word "end"
    return .branch condition thenCase .identity

def fold : Nat → Take (Term × Pattern × List Term)
  | 0 => refuse
  | fuel + 1 => do
    let source ← atom fuel
    word "as"
    let p ← pattern fuel
    return (source, p, ← arguments fuel)

def arguments : Nat → Take (List Term)
  | 0 => refuse
  | fuel + 1 => do
    match ← remaining with
    | .block '(' body :: _ =>
      skip
      within body (termList fuel)
    | _ => return []

def termList : Nat → Take (List Term)
  | 0 => refuse
  | fuel + 1 => do
    let t ← term true fuel
    if ← symbol? ";" then return t :: (← termList fuel) else return [t]

def steps : Nat → Take (List Step)
  | 0 => refuse
  | fuel + 1 => do
    match ← remaining with
    | .field name :: _ =>
      skip
      let step ← Step.withMark fuel (.index (.plain name))
      return step :: (← steps fuel)
    | .symbol "." :: .text parts :: _ =>
      skip
      skip
      let key ← text none parts fuel
      let step ← Step.withMark fuel (.index key)
      return step :: (← steps fuel)
    | .symbol "." :: .block '[' body :: _ =>
      skip
      skip
      let step ← within body (bracketStep fuel)
      let step ← Step.withMark fuel step
      return step :: (← steps fuel)
    | .symbol "." :: _ => refuse
    | .block '[' body :: _ =>
      skip
      let step ← within body (bracketStep fuel)
      let step ← Step.withMark fuel step
      return step :: (← steps fuel)
    | _ => return []

/-- Read the step between two brackets. -/
def bracketStep : Nat → Take (Bool → Step)
  | 0 => refuse
  | fuel + 1 => do
    if (← remaining).isEmpty then return .range none none
    if ← symbol? ":" then
      return .range none (some (← term true fuel))
    let first ← term true fuel
    if ← symbol? ":" then
      if (← remaining).isEmpty then return .range (some first) none
      else return .range (some first) (some (← term true fuel))
    else return .index first

def entries : Nat → Take (List Entry)
  | 0 => refuse
  | fuel + 1 => do
    let e ← entry fuel
    if ← symbol? "," then return e :: (← entries fuel) else return [e]

def entry : Nat → Take Entry
  | 0 => refuse
  | fuel + 1 => do
    match ← remaining with
    | .variable name :: _ =>
      skip
      return .mk (.plain name) (some (.variable name))
    | .block '(' body :: _ =>
      skip
      let key ← within body (term true fuel)
      symbol ":"
      return .mk key (some (← term false fuel))
    | _ =>
      let key ← memberKey fuel
      if ← symbol? ":" then return .mk key (some (← term false fuel)) else return .mk key none

/-- Read a key that is a word or a quoted text. -/
def memberKey : Nat → Take Term
  | 0 => refuse
  | fuel + 1 => do
    match ← remaining with
    | .word name :: _ =>
      skip
      return .plain name
    | .text parts :: _ =>
      skip
      text none parts fuel
    | .format name :: .text parts :: _ =>
      skip
      skip
      text (some name) parts fuel
    | _ => refuse

def pattern : Nat → Take Pattern
  | 0 => refuse
  | fuel + 1 => do
    match ← remaining with
    | .variable name :: _ =>
      skip
      return .variable name
    | .block '[' body :: _ =>
      skip
      return .array (← within body (patterns fuel))
    | .block '{' body :: _ =>
      skip
      return .object (← within body (patternMembers fuel))
    | _ => refuse

def patterns : Nat → Take (List Pattern)
  | 0 => refuse
  | fuel + 1 => do
    let p ← pattern fuel
    if ← symbol? "," then return p :: (← patterns fuel) else return [p]

def patternMembers : Nat → Take (List PatternMember)
  | 0 => refuse
  | fuel + 1 => do
    let m ← patternMember fuel
    if ← symbol? "," then return m :: (← patternMembers fuel) else return [m]

def patternMember : Nat → Take PatternMember
  | 0 => refuse
  | fuel + 1 => do
    match ← remaining with
    | .variable name :: _ =>
      skip
      return .mk (.plain name) (.variable name)
    | .block '(' body :: _ =>
      skip
      let key ← within body (term true fuel)
      symbol ":"
      return .mk key (← pattern fuel)
    | _ =>
      let key ← memberKey fuel
      symbol ":"
      return .mk key (← pattern fuel)

def text (format : Option String) (parts : List TextToken) : Nat → Take Term
  | 0 => refuse
  | fuel + 1 => do
    return .text format (← textParts parts fuel)

def textParts : List TextToken → Nat → Take (List TextPart)
  | _, 0 => refuse
  | [], _ => return []
  | .chars cs :: rest, fuel + 1 => do
    return .chars cs :: (← textParts rest fuel)
  | .inserted body :: rest, fuel + 1 => do
    let t ← within body (term true fuel)
    return .inserted t :: (← textParts rest fuel)

end

def Term.ofText? (s : String) : Option Term := do
  let tokens ← Token.ofText? s
  within tokens (term true (8 * s.length + 64)) [] |>.map Prod.fst

end FormRules.Query
