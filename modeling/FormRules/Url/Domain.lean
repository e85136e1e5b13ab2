import FormRules.Pattern.Property
import FormRules.Text.Pieces
import FormRules.Url.Mapping
import FormRules.Url.Punycode
import FormRules.Url.Tables.Direction
import FormRules.Url.Tables.Joining

/-!
# Domain names

Names in any script.  A name is prepared and cut at its full stops; each label
follows rules on its characters, and if a label is written from right to left,
all labels follow the rules for names in two directions.
-/

namespace FormRules.Url

open Text

/-! ## Characters that are refused -/

def isForbidden (c : Char) : Bool :=
  c.toNat ≤ 32 || c.toNat = 127 ||
    ['%', '#', '/', ':', '<', '>', '?', '@', '[', '\\', ']', '^', '|'].contains c

/-! ## Direction -/

inductive Direction where
  | leftToRight
  | rightToLeft
  | arabicNumber
  | europeanNumber
  | nonspacing
  | neutral
deriving DecidableEq, Repr

def rightToLeftTable : RangeTable := .ofText rightToLeftSteps

def arabicNumberTable : RangeTable := .ofText arabicNumberSteps

def europeanNumberTable : RangeTable := .ofText europeanNumberSteps

def nonspacingTable : RangeTable := .ofText nonspacingSteps

def neutralTable : RangeTable := .ofText neutralSteps

def Direction.ofChar (c : Char) : Direction :=
  let n := c.toNat
  if rightToLeftTable.contains n then .rightToLeft
  else if arabicNumberTable.contains n then .arabicNumber
  else if europeanNumberTable.contains n then .europeanNumber
  else if nonspacingTable.contains n then .nonspacing
  else if neutralTable.contains n then .neutral
  else .leftToRight

/-- Drop the marks at the end of a label, given in reverse. -/
def dropMarks (reversed : List Direction) : List Direction :=
  reversed.dropWhile fun d => d = .nonspacing

def isOrderly : List Direction → Bool
  | [] => true
  | .leftToRight :: rest =>
    match dropMarks rest.reverse with
    | [] => true
    | last :: middle =>
      (last = .leftToRight || last = .europeanNumber) &&
        middle.all fun d => d ≠ .rightToLeft && d ≠ .arabicNumber
  | .rightToLeft :: rest =>
    match dropMarks rest.reverse with
    | [] => true
    | last :: middle =>
      (last = .rightToLeft || last = .europeanNumber || last = .arabicNumber) &&
        (middle.all fun d => d ≠ .leftToRight) &&
        !((last :: middle).contains .europeanNumber && (last :: middle).contains .arabicNumber)
  | _ => false

/-- Whether a name has to follow the rules for names in two directions. -/
def hasTwoDirections (cs : List Char) : Bool :=
  cs.any fun c =>
    let d := Direction.ofChar c
    d = .rightToLeft || d = .arabicNumber

/-! ## Joining -/

def joinsBeforeTable : RangeTable := .ofText joinsBeforeSteps

def joinsAfterTable : RangeTable := .ofText joinsAfterSteps

def transparentTable : RangeTable := .ofText transparentSteps

/-- The first character that is not passed over is in a table. -/
def reaches (t : RangeTable) (cs : List Char) : Bool :=
  match cs.dropWhile fun c => transparentTable.contains c.toNat with
  | c :: _ => t.contains c.toNat
  | [] => false

/-- Whether the invisible joiners of a label stand where they matter; `before` is reversed. -/
def joinersFit (before : List Char) : List Char → Bool
  | [] => true
  | c :: cs =>
    let afterVirama := (before.head?.map combiningClass).getD 0 = 9
    let fits :=
      if c.toNat = 0x200C then
        afterVirama || (reaches joinsAfterTable before && reaches joinsBeforeTable cs)
      else if c.toNat = 0x200D then afterVirama
      else true
    fits && joinersFit (c :: before) cs

/-! ## Labels -/

def markTable : RangeTable :=
  ((Pattern.lookup? Pattern.categorySteps "m").getD .empty).toTable

def isLabel (cs : List Char) : Bool :=
  !((cs.head?.map fun c => markTable.contains c.toNat).getD false) && joinersFit [] cs

def encodedLimit : Nat := 2000

def plainLimit : Nat := 1000

def label? (cs : List Char) : Option (List Char) :=
  if ['x', 'n', '-', '-'].isPrefixOf cs then do
    let code := cs.drop 4
    if encodedLimit < code.length || code.getLast? = some '-' ||
        !(code.all fun c => c.toNat < 128) then none
    let plain ← Punycode.decode? code
    if isPrepared plain && isLabel plain && (plain.any fun c => 128 ≤ c.toNat) &&
        !plain.any isForbidden && !plain.contains '.' then some plain else none
  else if cs.all fun c => c.toNat < 128 then some cs
  else if isLabel cs && cs.length ≤ plainLimit then some cs
  else none

/-! ## Names -/

/-- The labels of a domain name, in the form in which they are shown, if it is one. -/
def domain? (cs : List Char) : Option (List (List Char)) := do
  let prepared ← prepare? cs
  if prepared.any isForbidden then none
  let labels ← (pieces '.' prepared).mapM label?
  let orderly := labels.all fun label => isOrderly (label.map Direction.ofChar)
  if labels.any hasTwoDirections && !orderly then none
  return labels

end FormRules.Url
