import FormRules.Text.Normalization
import FormRules.Url.Tables.Mapping

/-!
# Characters of domain names

How the characters of a domain name are prepared: capital and compatibility
forms are replaced, invisible characters are dropped, and the rest is composed.
-/

namespace FormRules.Url

open Text

/-! ## Tables -/

def validTable : RangeTable := .ofText validSteps

def ignoredTable : RangeTable := .ofText ignoredSteps

structure Replacement where
  first : Nat
  count : Nat
  /-- How far the characters of the run, and those that replace them, lie apart. -/
  stride : Nat
  target : List Nat

def Replacement.last (r : Replacement) : Nat :=
  r.first + r.stride * (r.count - 1)

def Replacement.apply? (r : Replacement) (n : Nat) : Option (List Nat) :=
  if r.first ≤ n && n ≤ r.last && (n - r.first) % r.stride = 0 then
    some (r.target.map fun t => t + (n - r.first))
  else none

/-- Undo the steps of the table of replacements. -/
def decodeReplacements : Nat → Nat → List Nat → List Replacement
  | 0, _, _ => []
  | fuel + 1, place, gap :: 0 :: count :: stride :: target :: rest =>
    let run : Replacement := ⟨place + gap, count, stride, [target]⟩
    run :: decodeReplacements fuel run.last rest
  | fuel + 1, place, gap :: size :: rest =>
    ⟨place + gap, 1, 1, rest.take size⟩ ::
      decodeReplacements fuel (place + gap) (rest.drop size)
  | _, _, _ => []

def replacements : Array Replacement :=
  let steps := RangeTable.numbers replacedSteps
  (decodeReplacements steps.length 0 steps).toArray

def replacementStarts : Array Nat :=
  replacements.map Replacement.first

def replacement? (n : Nat) : Option (List Nat) :=
  match RangeTable.countUpTo replacementStarts n 32 0 replacementStarts.size with
  | 0 => none
  | k + 1 => replacements[k]?.bind fun r => r.apply? n

/-! ## Preparation -/

def isSettled (c : Char) : Bool :=
  validTable.contains c.toNat

/-- What a character of a domain name is turned into; some characters are not allowed. -/
def prepareChar? (c : Char) : Option (List Char) :=
  if isSettled c then some [c]
  else if ignoredTable.contains c.toNat then some []
  else (replacement? c.toNat).map fun ns => ns.map Char.ofNat

def prepare? (cs : List Char) : Option (List Char) := do
  return composed (← cs.mapM prepareChar?).flatten

/-- Whether a text is its own prepared form and holds nothing that is replaced or dropped. -/
def isPrepared (cs : List Char) : Bool :=
  cs.all isSettled && composed cs = cs

end FormRules.Url
