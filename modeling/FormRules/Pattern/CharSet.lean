import FormRules.Text.RangeTable

/-!
# Sets of characters

A set of code points as ascending ranges that neither overlap nor touch.
-/

namespace FormRules.Pattern

/-- A set of code points, as ascending pairs of first and last members. -/
structure CharSet where
  ranges : List (Nat × Nat)

namespace CharSet

def maxPoint : Nat := 0x10FFFF

def empty : CharSet := ⟨[]⟩

def single (n : Nat) : CharSet := ⟨[(n, n)]⟩

def range (lo hi : Nat) : CharSet :=
  if lo ≤ hi then ⟨[(lo, hi)]⟩ else empty

/-- Append a range that starts no earlier than the last one, given in reverse. -/
def pushRange (acc : List (Nat × Nat)) (r : Nat × Nat) : List (Nat × Nat) :=
  match acc with
  | [] => [r]
  | (lo, hi) :: rest => if r.1 ≤ hi + 1 then (lo, max hi r.2) :: rest else r :: (lo, hi) :: rest

def ofRanges (rs : List (Nat × Nat)) : CharSet :=
  let sorted := rs.mergeSort fun a b => a.1 ≤ b.1
  ⟨(sorted.foldl pushRange []).reverse⟩

def ofTable (t : Text.RangeTable) : CharSet :=
  ⟨t.ranges⟩

def union (a b : CharSet) : CharSet :=
  if a.ranges.isEmpty then b
  else if b.ranges.isEmpty then a
  else ofRanges (a.ranges ++ b.ranges)

/-- The gaps of a set from a code point on, up to a greatest one. -/
def gaps (top : Nat) : Nat → List (Nat × Nat) → List (Nat × Nat)
  | from_, [] => if from_ ≤ top then [(from_, top)] else []
  | from_, (lo, hi) :: rest =>
    if from_ < lo then (from_, lo - 1) :: gaps top (hi + 1) rest else gaps top (hi + 1) rest

def complementUpTo (top : Nat) (a : CharSet) : CharSet :=
  ⟨gaps top 0 a.ranges⟩

def complement (a : CharSet) : CharSet :=
  a.complementUpTo maxPoint

def inter (a b : CharSet) : CharSet :=
  ((a.complement).union b.complement).complement

def diff (a b : CharSet) : CharSet :=
  a.inter b.complement

def symmDiff (a b : CharSet) : CharSet :=
  (a.union b).diff (a.inter b)

def inRanges (n : Nat) : List (Nat × Nat) → Bool
  | [] => false
  | (lo, hi) :: rest => lo ≤ n && (n ≤ hi || inRanges n rest)

def contains (a : CharSet) (c : Char) : Bool :=
  inRanges c.toNat a.ranges

def isAscii (a : CharSet) : Bool :=
  a.ranges.all fun r => r.2 < 128

def toTable (a : CharSet) : Text.RangeTable :=
  ⟨(a.ranges.flatMap fun r => [r.1, r.2 + 1]).toArray⟩

end CharSet

end FormRules.Pattern
