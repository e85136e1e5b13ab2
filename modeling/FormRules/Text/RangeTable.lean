/-!
# Tables of character ranges

A set of code points is stored as the ascending list of places where membership
changes.  Tables are written as texts of decimal steps from one such place to
the next.
-/

namespace FormRules.Text

/-- A set of natural numbers, given by the ascending places where membership changes. -/
structure RangeTable where
  /-- Starts and ends of the ranges in turn; an end is not a member. -/
  bounds : Array Nat

namespace RangeTable

def numbers (text : String) : List Nat :=
  finish (text.toList.foldl step ([], none))
where
  /-- Continue the number that is being read, or close it. -/
  step (state : List Nat × Option Nat) (c : Char) : List Nat × Option Nat :=
    if 48 ≤ c.toNat && c.toNat ≤ 57 then
      (state.1, some (state.2.getD 0 * 10 + (c.toNat - 48)))
    else
      match state.2 with
      | some n => (n :: state.1, none)
      | none => state
  finish (state : List Nat × Option Nat) : List Nat :=
    match state.2 with
    | some n => (n :: state.1).reverse
    | none => state.1.reverse

/-- Turn steps into places. -/
def running (steps : List Nat) : List Nat :=
  go 0 steps
where
  go (place : Nat) : List Nat → List Nat
    | [] => []
    | d :: rest => (place + d) :: go (place + d) rest

def ofText (text : String) : RangeTable :=
  ⟨(running (numbers text)).toArray⟩

/-- How many of the places `lo` to `hi` are at most `n`, added to `lo`. -/
def countUpTo (bounds : Array Nat) (n : Nat) : (fuel lo hi : Nat) → Nat
  | 0, lo, _ => lo
  | fuel + 1, lo, hi =>
    if lo < hi then
      let mid := (lo + hi) / 2
      if bounds.getD mid 0 ≤ n then countUpTo bounds n fuel (mid + 1) hi
      else countUpTo bounds n fuel lo mid
    else lo

def contains (t : RangeTable) (n : Nat) : Bool :=
  countUpTo t.bounds n 32 0 t.bounds.size % 2 = 1

def ranges (t : RangeTable) : List (Nat × Nat) :=
  pair t.bounds.toList
where
  pair : List Nat → List (Nat × Nat)
    | lo :: hi :: rest => (lo, hi - 1) :: pair rest
    | _ => []

end RangeTable

end FormRules.Text
