import FormRules.Proofs.BoundOrder
import FormRules.Proofs.Scaling

/-!
# Whole parts after rounding

A quotient is rounded to the nearest number and then loses its fraction.  What is
left is its whole part or the integer next to it, as long as this is below two to
the power of 53; beyond, all numbers are whole, and rounding alone decides.
-/

namespace FormRules.Binary64

/-! ## Quotients with a common factor -/

theorem roundHalfEven_mul_right (num den : Nat) {c : Nat} (positive : 0 < c) :
    roundHalfEven (num * c) (den * c) = roundHalfEven num den := by
  have double (n : Nat) : 2 * (n * c) = 2 * n * c := (Nat.mul_assoc 2 n c).symm
  unfold roundHalfEven
  simp only [Nat.mul_div_mul_right num den positive, Nat.mul_mod_mul_right, double,
    Nat.mul_lt_mul_right positive]

theorem nearestOrdinal_mul_right (num den : Nat) {c : Nat} (positive : 0 < c) :
    nearestOrdinal (num * c) (den * c) = nearestOrdinal num den := by
  have same : span (num * c) (den * c) = span num den := by
    unfold span
    rw [Nat.mul_div_mul_right num den positive]
  rw [nearestOrdinal_eq, nearestOrdinal_eq, spacing, spacing, same, Nat.mul_right_comm,
    roundHalfEven_mul_right _ _ positive]

/-! ## The nearest number -/

variable {num den n : Nat}

/-- No number is closer to a quotient than the one that it is rounded to. -/
theorem value_nearest (negative : Bool) (positive : 0 < den)
    (finite : nearestOrdinal (num * unitsPerOne) den < 9218868437227405312) (y : Binary64) :
    let quotient : ℚ := (if negative then -(num : Int) else num : Int) / den
    |(⟨negative, _, finite⟩ : Binary64).value - quotient| ≤ |y.value - quotient| := by
  intro quotient
  have near := nearestOrdinal_nearest (num * unitsPerOne) positive y.ordinal
  have fromZero := nearestOrdinal_nearest (num * unitsPerOne) positive 0
  have zero : units 0 = 0 := units_of_lt (by decide)
  rw [zero, Nat.zero_mul] at fromZero
  have scaled (x : Binary64) : x.value - quotient =
      ((x.scaled * den - (if negative then -(num : Int) else num : Int) * unitsPerOne : Int) : ℚ) /
        (unitsPerOne * den) := by
    have one : (unitsPerOne : ℚ) ≠ 0 := Nat.cast_ne_zero.2 unitsPerOne_pos.ne'
    have parts : (den : ℚ) ≠ 0 := Nat.cast_ne_zero.2 positive.ne'
    simp only [quotient, value]
    rw [div_sub_div _ _ one parts, mul_comm (unitsPerOne : ℚ) (Int.cast _)]
    push_cast
    rfl
  rw [scaled, scaled, abs_div, abs_div]
  apply div_le_div_of_nonneg_right _ (abs_nonneg _)
  rw [← Int.cast_abs, ← Int.cast_abs, Int.cast_le]
  unfold distance at near fromZero
  rw [Int.abs_eq_natAbs, Int.abs_eq_natAbs, Int.ofNat_le]
  simp only [Binary64.scaled]
  push_cast at near fromZero
  have target := mul_nonneg (Int.natCast_nonneg num) (Int.natCast_nonneg unitsPerOne)
  have other := mul_nonneg (Int.natCast_nonneg (units y.ordinal)) (Int.natCast_nonneg den)
  have own := mul_nonneg (Int.natCast_nonneg (units (nearestOrdinal (num * unitsPerOne) den)))
    (Int.natCast_nonneg den)
  -- Only the products matter from here on, and a number of the other sign is no closer than zero.
  cases negative <;> cases y.negative <;>
    simp only [if_true, if_false, Bool.false_eq_true, neg_mul] <;>
    generalize (num : Int) * unitsPerOne = x at * <;>
    generalize (units y.ordinal : Int) * den = v at * <;>
    generalize (units (nearestOrdinal (num * unitsPerOne) den) : Int) * den = u at * <;>
    omega

/-! ## The whole part -/

def wholeNearest (num den : Nat) : Nat :=
  units (nearestOrdinal (num * unitsPerOne) den) / unitsPerOne

theorem ordinalOf_le_nearest (below : n * den ≤ num) (positive : 0 < den) :
    ordinalOf n ≤ nearestOrdinal (num * unitsPerOne) den := by
  have scaled : n * unitsPerOne * den ≤ num * unitsPerOne := by
    rw [Nat.mul_right_comm]
    exact Nat.mul_le_mul_right _ below
  rw [ordinalOf, ← nearestOrdinal_mul_right _ _ positive, Nat.one_mul]
  exact nearestOrdinal_mono positive scaled

theorem nearest_le_ordinalOf (above : num ≤ n * den) (positive : 0 < den) :
    nearestOrdinal (num * unitsPerOne) den ≤ ordinalOf n := by
  have scaled : num * unitsPerOne ≤ n * unitsPerOne * den := by
    rw [Nat.mul_right_comm]
    exact Nat.mul_le_mul_right _ above
  rw [ordinalOf, ← nearestOrdinal_mul_right (n * unitsPerOne) 1 positive, Nat.one_mul]
  exact nearestOrdinal_mono positive scaled

theorem le_wholeNearest (small : n ≤ 9007199254740992) (below : n * den ≤ num)
    (positive : 0 < den) : n ≤ wholeNearest num den := by
  rw [wholeNearest, Nat.le_div_iff_mul_le unitsPerOne_pos, ← units_ordinalOf small]
  exact units_strictMono.monotone (ordinalOf_le_nearest below positive)

theorem wholeNearest_le (small : n ≤ 9007199254740992) (above : num ≤ n * den)
    (positive : 0 < den) : wholeNearest num den ≤ n := by
  rw [wholeNearest]
  apply Nat.div_le_of_le_mul
  rw [Nat.mul_comm unitsPerOne, ← units_ordinalOf small]
  exact units_strictMono.monotone (nearest_le_ordinalOf above positive)

/-- Beyond two to the power of 53 all numbers are whole. -/
theorem wholeNearest_mul_unitsPerOne (large : 9007199254740992 * den ≤ num) (positive : 0 < den) :
    wholeNearest num den * unitsPerOne = units (nearestOrdinal (num * unitsPerOne) den) := by
  have least : 9007199254740992 * unitsPerOne ≤ units (nearestOrdinal (num * unitsPerOne) den) := by
    rw [← units_ordinalOf le_rfl]
    exact units_strictMono.monotone (ordinalOf_le_nearest large positive)
  have one := unitsPerOne_pos
  obtain ⟨k, power⟩ := exists_unitsPerOne
  rw [wholeNearest]
  apply Nat.div_mul_cancel
  generalize nearestOrdinal (num * unitsPerOne) den = o at least ⊢
  rcases dvd_units_or_lt o k with divides | below
  · rwa [power]
  · rw [← power] at below
    omega

theorem distance_mul_right (m n c : Nat) : distance (m * c) (n * c) = distance m n * c := by
  unfold distance
  rw [Nat.cast_mul, Nat.cast_mul, ← Int.sub_mul, Int.natAbs_mul, Int.natAbs_natCast]

theorem two_pow_le_unitsPerOne : 9007199254740992 ≤ unitsPerOne := by
  decide +kernel

/-- The whole part of a quotient is kept, or the quotient is rounded to an integer that is wrong by
at most one part in two to the power of 53. -/
theorem wholeNearest_error (num : Nat) (positive : 0 < den) :
    wholeNearest num den = num / den ∨
      9007199254740992 * distance (wholeNearest num den * den) num ≤ num := by
  have error := distance_nearestOrdinal_le (num * unitsPerOne) positive
  have one := unitsPerOne_pos
  have division := Nat.div_add_mod' num den
  have remainder := Nat.mod_lt num positive
  rcases Nat.lt_or_ge (num / den) 9007199254740992 with small | large
  · have next : (num / den + 1) * den = num / den * den + den := Nat.succ_mul _ _
    have low : num / den ≤ wholeNearest num den :=
      le_wholeNearest small.le (by omega) positive
    have high : wholeNearest num den ≤ num / den + 1 :=
      wholeNearest_le small (by omega) positive
    rcases Nat.eq_or_lt_of_le low with same | up
    · exact .inl same.symm
    · right
      have value : wholeNearest num den = num / den + 1 := by omega
      have reached : (num / den + 1) * unitsPerOne ≤
          units (nearestOrdinal (num * unitsPerOne) den) := by
        rw [← value]
        exact Nat.div_mul_le_self _ _
      have least : num * unitsPerOne ≤ (num / den + 1) * den * unitsPerOne :=
        Nat.mul_le_mul_right _ (by omega)
      have unit : 9007199254740992 * den ≤ (num / den + 1) * den * unitsPerOne := by
        rw [Nat.mul_comm]
        exact Nat.mul_le_mul (Nat.le_mul_of_pos_left den (Nat.succ_pos _)) two_pow_le_unitsPerOne
      have scaled := Nat.mul_le_mul_right den reached
      rw [Nat.mul_right_comm] at scaled
      rw [value]
      apply Nat.le_of_mul_le_mul_right _ one
      rw [Nat.mul_assoc, ← distance_mul_right]
      unfold distance at error ⊢
      generalize (num / den + 1) * den * unitsPerOne = a at *
      generalize num * unitsPerOne = x at *
      generalize units (nearestOrdinal x den) * den = u at *
      omega
  · right
    have largeNum : 9007199254740992 * den ≤ num := (Nat.le_div_iff_mul_le positive).1 large
    have whole := wholeNearest_mul_unitsPerOne largeNum positive
    rw [← whole, Nat.mul_right_comm, distance_mul_right] at error
    have larger : max (num * unitsPerOne) (4503599627370496 * den) = num * unitsPerOne := by
      apply max_eq_left
      have scaled := Nat.le_mul_of_pos_right num one
      omega
    rw [larger, ← Nat.mul_assoc] at error
    exact Nat.le_of_mul_le_mul_right error one

/-- A quotient is rounded beyond the integers of 64 bits from halfway between the last of them that
is representable and the next number on. -/
theorem wholeNearest_lt_iff (num : Nat) (positive : 0 < den) :
    wholeNearest num den < 9223372036854775808 ↔ num < 9223372036854775296 * den := by
  have one := unitsPerOne_pos
  constructor
  · intro low
    by_contra large
    have edge : units (ordinalOf 9223372036854775296) = 9223372036854775808 * unitsPerOne := by
      decide +kernel
    have reached := units_strictMono.monotone (ordinalOf_le_nearest (Nat.le_of_not_lt large) positive)
    rw [edge, ← Nat.le_div_iff_mul_le one] at reached
    exact absurd low (Nat.not_lt.2 reached)
  · intro small
    by_contra large
    have reached : 9223372036854775808 * unitsPerOne ≤
        units (nearestOrdinal (num * unitsPerOne) den) :=
      (Nat.le_div_iff_mul_le one).1 (Nat.le_of_not_lt large)
    have last : units (ordinalOf 9223372036854774784) = 9223372036854774784 * unitsPerOne := by
      decide +kernel
    have near := nearestOrdinal_nearest (num * unitsPerOne) positive (ordinalOf 9223372036854774784)
    have scaled := Nat.mul_le_mul_right den reached
    have below := Nat.mul_lt_mul_of_pos_right small one
    rw [last] at near
    rw [Nat.mul_assoc] at near scaled below
    rw [Nat.mul_comm unitsPerOne] at near scaled
    unfold distance at near
    generalize den * unitsPerOne = a at *
    generalize num * unitsPerOne = x at *
    generalize units (nearestOrdinal x den) * den = u at *
    omega

theorem nearestOrdinal_lt_of_wholeNearest_lt (small : wholeNearest num den < 9223372036854775808) :
    nearestOrdinal (num * unitsPerOne) den < 9218868437227405312 := by
  by_contra infinite
  have beyond : 9223372036854775808 * unitsPerOne ≤ units 9218868437227405312 := by
    decide +kernel
  have large : 9223372036854775808 ≤ wholeNearest num den :=
    (Nat.le_div_iff_mul_le unitsPerOne_pos).2
      (beyond.trans (units_strictMono.monotone (Nat.le_of_not_lt infinite)))
  exact absurd small (Nat.not_lt.2 large)

/-- The integers that are not changed by rounding have at most 53 binary digits before their zeros. -/
theorem wholeNearest_eq_self_iff (positive : 0 < den) :
    wholeNearest (n * den) den = n ↔ ∃ m k : Nat, m < 9007199254740992 ∧ n = m * 2 ^ k := by
  have same : nearestOrdinal (n * den * unitsPerOne) den = ordinalOf n := by
    rw [ordinalOf, ← nearestOrdinal_mul_right (n * unitsPerOne) 1 positive, Nat.one_mul,
      Nat.mul_right_comm]
  obtain ⟨i, power⟩ := exists_unitsPerOne
  constructor
  · intro kept
    rcases Nat.lt_or_ge n 9007199254740992 with small | large
    · exact ⟨n, 0, small, by simp⟩
    · have whole := wholeNearest_mul_unitsPerOne (Nat.mul_le_mul_right den large) positive
      rw [kept, same] at whole
      have normal := le_ordinalOf (show 0 < n by omega)
      obtain ⟨s, r, ordinal, low, high⟩ := exists_span (o := ordinalOf n) (by omega)
      rw [ordinal, units_span s low high.le, power] at whole
      have above : i ≤ s := by
        by_contra below
        have smaller : r * 2 ^ s < n * 2 ^ i :=
          Nat.mul_lt_mul_of_lt_of_le (by omega) (Nat.pow_le_pow_right (by decide) (by omega))
            (Nat.two_pow_pos i)
        omega
      refine ⟨r, s - i, high, Nat.eq_of_mul_eq_mul_right (Nat.two_pow_pos i) ?_⟩
      rw [whole, Nat.mul_assoc, ← pow_add, Nat.sub_add_cancel above]
  · rintro ⟨m, k, small, rfl⟩
    obtain ⟨o, value⟩ := exists_units small.le (k + i)
    have representable : ordinalOf (m * 2 ^ k) = o := by
      apply nearestOrdinal_eq_of_units _ Nat.one_pos
      rw [value, power]
      ring
    rw [wholeNearest, same, representable, value, pow_add, ← Nat.mul_assoc, ← power]
    exact Nat.mul_div_cancel _ unitsPerOne_pos

end FormRules.Binary64
