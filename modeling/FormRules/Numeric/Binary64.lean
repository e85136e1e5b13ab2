/-!
# Finite binary floating-point numbers

The finite numbers of the 64-bit binary format, as a sign and an ordinal: the
ordinal counts the representable magnitudes from zero upwards, so comparing
ordinals compares magnitudes.  Every operation is exact arithmetic on natural
numbers followed by one rounding to the nearest, ties to the even ordinal.

There are `4503599627370496` magnitudes, two to the power of 52, between a power
of two and the next, and 2047 such spans of finite magnitudes.
-/

namespace FormRules

structure Binary64 where
  /-- Whether the sign is minus.  Zero has both signs. -/
  negative : Bool
  /-- The rank of the magnitude among the representable ones. -/
  ordinal : Nat
  finite : ordinal < 9218868437227405312
deriving DecidableEq

namespace Binary64

/-! ## Magnitudes -/

/-- The magnitude of an ordinal, counted in the least positive magnitude `2 ^ (-1074)`. -/
def units (o : Nat) : Nat :=
  if o < 4503599627370496 then o
  else (4503599627370496 + o % 4503599627370496) * Nat.pow 2 (o / 4503599627370496 - 1)

def unitsPerOne : Nat := Nat.pow 2 1074

/-- Round a quotient of natural numbers to the nearest, a tie to the even one. -/
def roundHalfEven (num den : Nat) : Nat :=
  let q := num / den
  let r := num % den
  if 2 * r < den then q
  else if den < 2 * r then q + 1
  else if q % 2 = 0 then q else q + 1

/-- The ordinal nearest to `num / den` units; it may lie beyond the finite ones. -/
def nearestOrdinal (num den : Nat) : Nat :=
  let q := num / den
  let shift := if q < 9007199254740992 then 0 else q.log2 - 52
  shift * 4503599627370496 + roundHalfEven num (den * Nat.pow 2 shift)

/-! ## Building -/

def ofOrdinal? (negative : Bool) (o : Nat) : Option Binary64 :=
  if h : o < 9218868437227405312 then some ⟨negative, o, h⟩ else none

def zero (negative : Bool) : Binary64 :=
  ⟨negative, 0, by decide⟩

instance : Inhabited Binary64 := ⟨zero false⟩

def ofRatio? (negative : Bool) (num den : Nat) : Option Binary64 :=
  ofOrdinal? negative (nearestOrdinal (num * unitsPerOne) den)

def maxOrdinal : Nat := 9218868437227405311

/-- The number nearest to a signed quotient; the largest finite one when that overflows. -/
def ofRatio (negative : Bool) (num den : Nat) : Binary64 :=
  ⟨negative, min (nearestOrdinal (num * unitsPerOne) den) maxOrdinal, by
    unfold maxOrdinal
    omega⟩

def ofNat (n : Nat) : Binary64 :=
  ofRatio false n 1

def ofInt (i : Int) : Binary64 :=
  ofRatio (i < 0) i.natAbs 1

/-- The number with a given bit pattern, unless the pattern is an infinity or no number. -/
def ofBits? (bits : Nat) : Option Binary64 :=
  ofOrdinal? (9223372036854775808 ≤ bits) (bits % 9223372036854775808)

/-! ## Order -/

/-- The signed ordinal.  Both zeros have rank zero. -/
def rank (x : Binary64) : Int :=
  if x.negative then -(x.ordinal : Int) else x.ordinal

instance : LE Binary64 := ⟨fun x y => x.rank ≤ y.rank⟩
instance : LT Binary64 := ⟨fun x y => x.rank < y.rank⟩
instance (x y : Binary64) : Decidable (x ≤ y) := inferInstanceAs (Decidable (x.rank ≤ y.rank))
instance (x y : Binary64) : Decidable (x < y) := inferInstanceAs (Decidable (x.rank < y.rank))

/-- Whether two numbers have the same value; the zeros do. -/
def sameValue (x y : Binary64) : Bool :=
  x.rank = y.rank

/-! ## Parts -/

def toBits (x : Binary64) : Nat :=
  (if x.negative then 9223372036854775808 else 0) + x.ordinal

def neg (x : Binary64) : Binary64 :=
  ⟨!x.negative, x.ordinal, x.finite⟩

def truncated (x : Binary64) : Nat :=
  units x.ordinal / unitsPerOne

def toInt (x : Binary64) : Int :=
  if x.negative then -(x.truncated : Int) else x.truncated

/-! ## Arithmetic -/

def mul? (x y : Binary64) : Option Binary64 :=
  ofOrdinal? (x.negative != y.negative)
    (nearestOrdinal (units x.ordinal * units y.ordinal) unitsPerOne)

def div? (x y : Binary64) : Option Binary64 :=
  if units y.ordinal = 0 then none
  else
    ofOrdinal? (x.negative != y.negative)
      (nearestOrdinal (units x.ordinal * unitsPerOne) (units y.ordinal))

def divNat (x : Binary64) (n : Nat) : Binary64 :=
  ⟨x.negative, min (nearestOrdinal (units x.ordinal) n) maxOrdinal, by
    unfold maxOrdinal
    omega⟩

end Binary64

end FormRules
