import FormRules.Proofs.Rounding

/-!
# Powers of two

A power of two as a factor only moves the exponent.  So an integer and its double
are rounded alike, and a rounded integer is divided by a power of two without
another rounding, as long as the quotient does not get too small.
-/

namespace FormRules.Binary64

/-! ## Magnitudes -/

/-- Beyond the least spans the next power of two is as many ordinals away for every magnitude. -/
theorem units_add_span {o : Nat} (normal : 4503599627370496 ≤ o) (k : Nat) :
    units (o + k * 4503599627370496) = units o * 2 ^ k := by
  obtain ⟨s, r, rfl, low, high⟩ := exists_span normal
  have moved : s * 4503599627370496 + r + k * 4503599627370496 =
      (s + k) * 4503599627370496 + r := by ring
  rw [moved, units_span (s + k) low high.le, units_span s low high.le, pow_add, mul_assoc]

theorem units_sub_span {o k : Nat} (normal : (k + 1) * 4503599627370496 ≤ o) :
    units (o - k * 4503599627370496) * 2 ^ k = units o := by
  have room : k * 4503599627370496 ≤ o := (Nat.mul_le_mul_right _ (Nat.le_succ k)).trans normal
  rw [Nat.succ_mul, Nat.add_comm] at normal
  have left : 4503599627370496 ≤ o - k * 4503599627370496 := Nat.le_sub_of_add_le normal
  rw [← units_add_span left, Nat.sub_add_cancel room]

theorem roundHalfEven_double (num den : Nat) :
    roundHalfEven (2 * num) (2 * den) = roundHalfEven num den := by
  unfold roundHalfEven
  rw [Nat.mul_div_mul_left _ _ (by decide), Nat.mul_mod_mul_left]
  simp only [Nat.mul_lt_mul_left (a := 2) (by decide)]

theorem nearestOrdinal_double {num : Nat} (large : 9007199254740992 ≤ num) :
    nearestOrdinal (2 * num) 1 = nearestOrdinal num 1 + 4503599627370496 := by
  have exponent : 53 ≤ num.log2 := (Nat.le_log2 (by omega)).2 (by omega)
  have span : span (2 * num) 1 = span num 1 + 1 := by
    unfold span
    rw [Nat.div_one, Nat.div_one, if_neg (by omega), if_neg (by omega),
      Nat.log2_two_mul (by omega)]
    omega
  have spacing : spacing (2 * num) 1 = 2 * spacing num 1 := by
    unfold spacing
    rw [span, pow_succ]
    ring
  rw [nearestOrdinal_eq, nearestOrdinal_eq, span, spacing, roundHalfEven_double]
  ring

/-! ## Integers -/

theorem ordinalOf_zero : ordinalOf 0 = 0 := by
  rw [ordinalOf, Nat.zero_mul]
  rfl

theorem ordinalOf_one : ordinalOf 1 = 1022 * 4503599627370496 + 4503599627370496 := by
  apply nearestOrdinal_eq_of_units _ Nat.one_pos
  rw [units_span 1022 le_rfl (by decide)]
  decide +kernel

theorem le_ordinalOf {n : Nat} (positive : 0 < n) :
    1022 * 4503599627370496 + 4503599627370496 ≤ ordinalOf n :=
  ordinalOf_one.symm.le.trans (ordinalOf_mono positive)

theorem ordinalOf_double {n : Nat} (positive : 0 < n) :
    ordinalOf (2 * n) = ordinalOf n + 4503599627370496 := by
  have large : 9007199254740992 ≤ n * unitsPerOne :=
    le_trans (by decide +kernel) (Nat.le_mul_of_pos_left unitsPerOne positive)
  unfold ordinalOf
  rw [Nat.mul_assoc, nearestOrdinal_double large]

theorem ordinalOf_mul_pow {n : Nat} (positive : 0 < n) (k : Nat) :
    ordinalOf (n * 2 ^ k) = ordinalOf n + k * 4503599627370496 := by
  induction k with
  | zero => simp
  | succ k ih =>
      have double : n * 2 ^ (k + 1) = 2 * (n * 2 ^ k) := by ring
      rw [double, ordinalOf_double (Nat.mul_pos positive (Nat.two_pow_pos k)), ih]
      ring

theorem units_ordinalOf_mul_pow (n k : Nat) :
    units (ordinalOf (n * 2 ^ k)) = units (ordinalOf n) * 2 ^ k := by
  rcases Nat.eq_zero_or_pos n with rfl | positive
  · rw [Nat.zero_mul, ordinalOf_zero, units_of_lt (by decide), Nat.zero_mul]
  · have normal := le_ordinalOf positive
    rw [ordinalOf_mul_pow positive, units_add_span (by omega)]

/-- Rounding keeps a power of two as a factor. -/
theorem scaled_ofInt_mul_pow {i : Int} {k : Nat} (fits : Fits i) (fits' : Fits (i * 2 ^ k)) :
    (ofInt (i * 2 ^ k)).scaled = (ofInt i).scaled * 2 ^ k := by
  have positive : (0 : Int) < 2 ^ k := by positivity
  have magnitude : (i * 2 ^ k).natAbs = i.natAbs * 2 ^ k := by simp [Int.natAbs_mul, Int.natAbs_pow]
  have sign : i * 2 ^ k < 0 ↔ i < 0 := by
    constructor
    · intro h
      by_contra above
      exact absurd h (not_lt.2 (mul_nonneg (not_lt.1 above) positive.le))
    · exact fun h => mul_neg_of_neg_of_pos h positive
  rw [scaled_ofInt fits, scaled_ofInt fits', magnitude, units_ordinalOf_mul_pow]
  simp only [sign]
  split <;> push_cast <;> ring

/-! ## Quotients -/

/-- The quotient of an integer by a power of two is exact once the integer has been rounded. -/
theorem scaled_divNat_pow {n k : Nat} (fits : Fits n) (small : k ≤ 1000) :
    ((ofNat n).divNat (2 ^ k)).scaled * 2 ^ k = (ofInt n).scaled := by
  have quotient : ∃ o ≤ ordinalOf n, units o * 2 ^ k = units (ordinalOf n) := by
    rcases Nat.eq_zero_or_pos n with rfl | positive
    · exact ⟨0, Nat.zero_le _, by rw [ordinalOf_zero, units_of_lt (by decide), Nat.zero_mul]⟩
    · -- The integer is one at least, so there are enough spans below it to go down by the exponent.
      have spans : (k + 1) * 4503599627370496 ≤ 1022 * 4503599627370496 + 4503599627370496 := by
        omega
      exact ⟨_, Nat.sub_le _ _, units_sub_span (spans.trans (le_ordinalOf positive))⟩
  obtain ⟨o, bound, exact⟩ := quotient
  have top : ordinalOf n ≤ maxOrdinal := by
    rw [Fits, Int.natAbs_natCast] at fits
    exact fits
  have whole : (ofNat n).ordinal = ordinalOf n := Nat.min_eq_left top
  have ordinal : ((ofNat n).divNat (2 ^ k)).ordinal = o := by
    have nearest := nearestOrdinal_eq_of_units _ (Nat.two_pow_pos k) exact
    change min (nearestOrdinal (units (ofNat n).ordinal) (2 ^ k)) maxOrdinal = o
    rw [whole, nearest, Nat.min_eq_left (bound.trans top)]
  have positive : ((ofNat n).divNat (2 ^ k)).negative = false := rfl
  rw [scaled_ofInt fits, if_neg (Int.natCast_nonneg n).not_gt, Int.natAbs_natCast, ← exact]
  unfold scaled
  rw [positive, ordinal]
  simp

end FormRules.Binary64
