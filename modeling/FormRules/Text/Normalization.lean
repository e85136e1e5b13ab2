import FormRules.Text.RangeTable
import FormRules.Text.Tables.Composition

/-!
# Composed form of texts

The canonical form in which a letter and its marks are one character wherever
there is such a character.
-/

namespace FormRules.Text

/-! ## Combining classes -/

/-- Undo the steps of the table of combining classes: starts, ends and classes. -/
def decodeClasses : Nat → List Nat → List (Nat × Nat × Nat)
  | place, gap :: length :: cls :: rest =>
    (place + gap, place + gap + length, cls) :: decodeClasses (place + gap + length) rest
  | _, _ => []

def combiningRuns : Array (Nat × Nat × Nat) :=
  (decodeClasses 0 (RangeTable.numbers combiningSteps)).toArray

def combiningStarts : Array Nat :=
  combiningRuns.map Prod.fst

def combiningClass (c : Char) : Nat :=
  match RangeTable.countUpTo combiningStarts c.toNat 32 0 combiningStarts.size with
  | 0 => 0
  | k + 1 =>
    match combiningRuns[k]? with
    | some (_, stop, cls) => if c.toNat < stop then cls else 0
    | none => 0

/-! ## Pairs -/

def decodePairs : Nat → List Nat → List (Char × Char × Char)
  | place, step :: a :: b :: rest =>
    (Char.ofNat (place + step), Char.ofNat a, Char.ofNat b) :: decodePairs (place + step) rest
  | _, _ => []

def compositionPairs : Array (Char × Char × Char) :=
  (decodePairs 0 (RangeTable.numbers compositionSteps)).toArray

def composites : Array Nat :=
  compositionPairs.map fun p => p.1.toNat

/-- The two characters that a composite other than a Hangul syllable is composed of. -/
def pairOf? (c : Char) : Option (Char × Char) :=
  match RangeTable.countUpTo composites c.toNat 32 0 composites.size with
  | 0 => none
  | k + 1 =>
    match compositionPairs[k]? with
    | some (composite, pair) => if composite = c then some pair else none
    | none => none

/-- The Hangul syllable with a leading consonant and a vowel, or with a final consonant added. -/
def hangul? (a b : Char) : Option Char :=
  let x := a.toNat
  let y := b.toNat
  if 0x1100 ≤ x && x < 0x1113 && 0x1161 ≤ y && y < 0x1176 then
    some (Char.ofNat (0xAC00 + ((x - 0x1100) * 21 + (y - 0x1161)) * 28))
  else if 0xAC00 ≤ x && x < 0xD7A4 && (x - 0xAC00) % 28 = 0 && 0x11A7 < y && y < 0x11C3 then
    some (Char.ofNat (x + (y - 0x11A7)))
  else none

def compose? (a b : Char) : Option Char :=
  hangul? a b <|> (compositionPairs.find? fun p => p.2.1 = a && p.2.2 = b).map Prod.fst

/-! ## Decomposition -/

def hangulLetters (n : Nat) : List Char :=
  let index := n - 0xAC00
  let final := index % 28
  [Char.ofNat (0x1100 + index / 588), Char.ofNat (0x1161 + index % 588 / 28)] ++
    (if final = 0 then [] else [Char.ofNat (0x11A7 + final)])

/-- The characters of a composite, which may be composed in turn. -/
def decompose : (depth : Nat) → Char → List Char
  | 0, c => [c]
  | depth + 1, c =>
    if 0xAC00 ≤ c.toNat && c.toNat < 0xD7A4 then hangulLetters c.toNat
    else
      match pairOf? c with
      | some (a, b) => decompose depth a ++ [b]
      | none => [c]

/-- Put each run of marks in the order of their classes; `marks` is the run so far, in reverse. -/
def orderMarks (marks : List Char) : List Char → List Char
  | [] => sortRun marks
  | c :: cs =>
    if combiningClass c = 0 then sortRun marks ++ c :: orderMarks [] cs
    else orderMarks (c :: marks) cs
where
  sortRun (marks : List Char) : List Char :=
    marks.reverse.mergeSort fun a b => combiningClass a ≤ combiningClass b

/-! ## Composition -/

structure Composing where
  done : List Char
  starter : Option Char
  /-- Marks behind the starter that did not compose with it. -/
  marks : List Char

namespace Composing

def all (s : Composing) : List Char :=
  s.marks ++ s.starter.toList ++ s.done

/-- Whether a mark before hides the starter from a character of a class. -/
def isBlocked (s : Composing) (cls : Nat) : Bool :=
  match s.marks with
  | [] => false
  | m :: _ => cls ≤ combiningClass m

def push (s : Composing) (c : Char) : Composing :=
  let cls := combiningClass c
  match (if s.isBlocked cls then none else s.starter.bind fun a => compose? a c) with
  | some composite => { s with starter := some composite }
  | none =>
    if cls = 0 then ⟨s.all, some c, []⟩
    else if s.starter.isNone then { s with done := c :: s.done }
    else { s with marks := c :: s.marks }

end Composing

def composed (cs : List Char) : List Char :=
  let letters := orderMarks [] (cs.flatMap (decompose 4))
  (letters.foldl Composing.push ⟨[], none, []⟩).all.reverse

end FormRules.Text
