import FormRules.Pattern.Property
import FormRules.Pattern.Reader
import FormRules.Pattern.Syntax

/-!
# Expressions

What a pattern means: sets of characters, conditions on places, and the ways
to put them together.  Flags are resolved here, from left to right; a flag that
is switched inside a group ends with the group.
-/

namespace FormRules.Pattern

/-! ## Conditions -/

inductive WordPlace where
  | boundary
  | notBoundary
  | start
  | stop
  | startHalf
  | stopHalf
deriving DecidableEq, Repr

inductive Condition where
  | textStart
  | textEnd
  | lineStart
  | lineEnd
  /-- As for lines that a carriage return ends as well. -/
  | lineStartCrlf
  | lineEndCrlf
  | word (place : WordPlace) (ascii : Bool)
deriving DecidableEq, Repr

/-! ## Expressions -/

inductive Expr where
  | empty
  | chars (set : CharSet)
  | condition (c : Condition)
  | concat (parts : List Expr)
  | alt (branches : List Expr)
  | repeated (least : Nat) (most : Option Nat) (body : Expr)
  /-- A group whose extent is recorded. -/
  | capture (body : Expr)

namespace Expr

/-- The set of an expression that matches exactly one character. -/
def charSet? : Expr → Option CharSet
  | .chars set => some set
  | _ => none

def branches : Expr → List Expr
  | .alt bs => bs
  | e => [e]

def parts : Expr → List Expr
  | .empty => []
  | .concat es => es
  | e => [e]

def ofParts (es : List Expr) : Expr :=
  match es.flatMap parts with
  | [] => .empty
  | [e] => e
  | es => .concat es

/-- The expression of some branches; characters merge into a set. -/
def ofBranches (es : List Expr) : Expr :=
  let es := es.flatMap branches
  match es.mapM charSet? with
  | some sets => .chars (sets.foldl CharSet.union .empty)
  | none =>
    match es with
    | [e] => e
    | es => .alt es

mutual

def isEmptyOnly : Expr → Bool
  | .empty | .condition _ => true
  | .chars _ => false
  | .concat es => areEmptyOnly es
  | .alt es => areEmptyOnly es
  | .repeated _ most body => most = some 0 || body.isEmptyOnly
  | .capture body => body.isEmptyOnly

def areEmptyOnly : List Expr → Bool
  | [] => true
  | e :: es => e.isEmptyOnly && areEmptyOnly es

end

/-- Repeat a body; one that matches the empty text only need not be repeated more than once. -/
def repeat_ (least : Nat) (most : Option Nat) (body : Expr) : Expr :=
  let bounds : Nat × Option Nat :=
    if body.isEmptyOnly then (min least 1, some (min (most.getD 1) 1)) else (least, most)
  if bounds.2 = some 0 then .empty
  else if bounds = (1, some 1) then body
  else .repeated bounds.1 bounds.2 body

end Expr

/-! ## Modes -/

structure Mode where
  ignoreCase : Bool
  multiLine : Bool
  dotMatchesNewline : Bool
  unicode : Bool
  crlf : Bool

namespace Mode

def initial : Mode := ⟨false, false, false, true, false⟩

def set (m : Mode) : Flag × Bool → Mode
  | (.ignoreCase, b) => { m with ignoreCase := b }
  | (.multiLine, b) => { m with multiLine := b }
  | (.dotMatchesNewline, b) => { m with dotMatchesNewline := b }
  | (.unicode, b) => { m with unicode := b }
  | (.crlf, b) => { m with crlf := b }
  | (.swapGreed, _) => m
  | (.ignoreSpace, _) => m

def setAll (m : Mode) (settings : FlagSettings) : Mode :=
  settings.foldl set m

def fold (m : Mode) (s : CharSet) : CharSet :=
  if !m.ignoreCase then s else if m.unicode then s.foldCase else s.foldAsciiCase

/-- Complement a set if asked to; without Unicode only ASCII may remain. -/
def negate? (m : Mode) (negated : Bool) (s : CharSet) : Option CharSet :=
  if m.unicode then some (if negated then s.complement else s)
  else
    let s := if negated then s.complementUpTo 255 else s
    if s.isAscii then some s else none

/-- The character of a literal; a byte beyond ASCII is no character. -/
def char? (m : Mode) (l : Literal) : Option Char :=
  if !m.unicode && l.twoDigits && 127 < l.char.toNat then none else some l.char

/-- The code point of a literal in a class; without Unicode it has to be ASCII. -/
def classPoint? (m : Mode) (l : Literal) : Option Nat := do
  let c ← m.char? l
  if m.unicode || c.toNat < 128 then some c.toNat else none

def shorthand? (m : Mode) (kind : Shorthand) (negated : Bool) : Option CharSet :=
  m.negate? negated <|
    match kind, m.unicode with
    | .digit, true => .digit
    | .space, true => .blank
    | .word, true => .word
    | .digit, false => .asciiDigit
    | .space, false => .asciiBlank
    | .word, false => .asciiWord

def property? (m : Mode) (name : PropertyName) (negated : Bool) : Option CharSet := do
  if !m.unicode then none
  let s ← match name with
    | .plain name => Pattern.property? name
    | .valued name value => propertyValue? name value
  m.negate? negated (m.fold s)

def condition (m : Mode) : Anchor → Condition
  | .lineStart =>
    if !m.multiLine then .textStart else if m.crlf then .lineStartCrlf else .lineStart
  | .lineEnd => if !m.multiLine then .textEnd else if m.crlf then .lineEndCrlf else .lineEnd
  | .textStart => .textStart
  | .textEnd => .textEnd
  | .wordBoundary => .word .boundary (!m.unicode)
  | .notWordBoundary => .word .notBoundary (!m.unicode)
  | .wordStart => .word .start (!m.unicode)
  | .wordEnd => .word .stop (!m.unicode)
  | .wordStartHalf => .word .startHalf (!m.unicode)
  | .wordEndHalf => .word .stopHalf (!m.unicode)

def anyChar? (m : Mode) : Option CharSet :=
  if !m.unicode then none
  else if m.dotMatchesNewline then some (.range 0 CharSet.maxPoint)
  else if m.crlf then some (CharSet.complement ⟨[(10, 10), (13, 13)]⟩)
  else some (CharSet.complement ⟨[(10, 10)]⟩)

def literal? (m : Mode) (l : Literal) : Option CharSet :=
  (m.char? l).map fun c => m.fold (.single c.toNat)

end Mode

/-! ## Meaning of classes -/

mutual

/-- The set of a part of a class, before the class is closed under case. -/
def ClassItem.toSet? (m : Mode) : ClassItem → Option CharSet
  | .literal l => (m.classPoint? l).map .single
  | .range first last => do return .range (← m.classPoint? first) (← m.classPoint? last)
  | .posix name negated => do m.negate? negated (m.fold (← CharSet.posix? name))
  | .shorthand kind negated => m.shorthand? kind negated
  | .property name negated => m.property? name negated
  | .nested negated body => do m.negate? negated (m.fold (← body.toSet? m))
  | .union items => ClassItem.unionSet? m items
  | .intersection a b => do return (m.fold (← a.toSet? m)).inter (m.fold (← b.toSet? m))
  | .difference a b => do return (m.fold (← a.toSet? m)).diff (m.fold (← b.toSet? m))
  | .symmetricDifference a b => do
    return (m.fold (← a.toSet? m)).symmDiff (m.fold (← b.toSet? m))

def ClassItem.unionSet? (m : Mode) : List ClassItem → Option CharSet
  | [] => some .empty
  | item :: items => do return (← item.toSet? m).union (← ClassItem.unionSet? m items)

end

/-! ## Meaning of expressions -/

mutual

/-- The meaning of an expression at a mode, and the mode behind it. -/
def Syntax.toExpr? (m : Mode) : Syntax → Option (Expr × Mode)
  | .empty => some (.empty, m)
  | .flags settings => some (.empty, m.setAll settings)
  | .literal l => (m.literal? l).map fun s => (.chars s, m)
  | .anyChar => m.anyChar?.map fun s => (.chars s, m)
  | .anchor a => some (.condition (m.condition a), m)
  | .shorthand kind negated => (m.shorthand? kind negated).map fun s => (.chars s, m)
  | .property name negated => (m.property? name negated).map fun s => (.chars s, m)
  | .bracketed negated body => do
    let s ← body.toSet? m
    return (.chars (← m.negate? negated (m.fold s)), m)
  | .repeated least most body => do
    let (e, after) ← body.toExpr? m
    return (.repeat_ least most e, after)
  | .group settings captures body => do
    let (e, _) ← body.toExpr? (m.setAll settings)
    return (if captures then .capture e else e, m)
  | .alternation branches => do
    let (es, after) ← Syntax.toExprs? m branches
    return (.ofBranches es, after)
  | .concatenation parts => do
    let (es, after) ← Syntax.toExprs? m parts
    return (.ofParts es, after)

def Syntax.toExprs? (m : Mode) : List Syntax → Option (List Expr × Mode)
  | [] => some ([], m)
  | part :: parts => do
    let (e, m) ← part.toExpr? m
    let (es, m) ← Syntax.toExprs? m parts
    return (e :: es, m)

end

def Expr.ofChars? (cs : List Char) : Option Expr := do
  let tree ← Syntax.ofChars? cs
  return (← tree.toExpr? .initial).1

end FormRules.Pattern
