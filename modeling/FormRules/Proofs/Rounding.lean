import Mathlib.Order.Monotone.Basic
import Mathlib.Tactic.Linarith
import Mathlib.Tactic.Ring
import FormRules.Numeric.Binary64

/-!
# Rounding to the nearest number

Ordinals count the representable magnitudes, and rounding takes a quotient to
the nearest of them: no other magnitude is closer.  So rounding keeps the order,
changes no magnitude that is representable, and is wrong by at most one part in
two to the power of 53.  Integers of 64 bits are rounded by the same law.
-/

namespace FormRules.Binary64

/-! ## Magnitudes -/

theorem units_of_lt {o : Nat} (h : o < 9007199254740992) : units o = o := by
  unfold units
  split
  · rfl
  · have exponent : o / 4503599627370496 - 1 = 0 := by omega
    rw [exponent]
    simp
    omega

/-- The magnitudes between two powers of two lie at equal distances. -/
theorem units_span (s : Nat) {r : Nat} (low : 4503599627370496 ≤ r)
    (high : r ≤ 9007199254740992) : units (s * 4503599627370496 + r) = r * 2 ^ s := by
  have large : ¬s * 4503599627370496 + r < 4503599627370496 := by omega
  unfold units
  rw [if_neg large, Nat.pow_eq]
  by_cases top : r = 9007199254740992
  · have exponent : (s * 4503599627370496 + r) / 4503599627370496 - 1 = s + 1 := by omega
    have significand : (s * 4503599627370496 + r) % 4503599627370496 = 0 := by omega
    rw [exponent, significand, top, pow_succ]
    ring
  · have exponent : (s * 4503599627370496 + r) / 4503599627370496 - 1 = s := by omega
    have significand : 4503599627370496 + (s * 4503599627370496 + r) % 4503599627370496 = r := by
      omega
    rw [exponent, significand]

/-- An ordinal beyond the least span lies in one of the spans after it. -/
theorem exists_span {o : Nat} (h : 4503599627370496 ≤ o) :
    ∃ s r, o = s * 4503599627370496 + r ∧ 4503599627370496 ≤ r ∧ r < 9007199254740992 :=
  ⟨o / 4503599627370496 - 1, 4503599627370496 + o % 4503599627370496, by omega, by omega, by omega⟩

theorem units_strictMono : StrictMono units := by
  apply strictMono_nat_of_lt_succ
  intro o
  by_cases h : o < 4503599627370496
  · rw [units_of_lt (by omega), units_of_lt (by omega)]
    omega
  · obtain ⟨s, r, rfl, low, high⟩ := exists_span (Nat.le_of_not_lt h)
    rw [Nat.add_assoc, units_span s low high.le, units_span s (by omega) (by omega)]
    exact Nat.mul_lt_mul_of_pos_right (Nat.lt_succ_self r) (Nat.two_pow_pos s)

theorem units_eq_zero_iff {o : Nat} : units o = 0 ↔ o = 0 := by
  have zero : units 0 = 0 := units_of_lt (by decide)
  rw [← zero]
  exact units_strictMono.injective.eq_iff

/-- A small number times a power of two is a magnitude. -/
theorem exists_units {n : Nat} (h : n ≤ 9007199254740992) (k : Nat) : ∃ o, units o = n * 2 ^ k := by
  induction k with
  | zero =>
      by_cases small : n < 9007199254740992
      · exact ⟨n, by rw [units_of_lt small]; simp⟩
      · exact ⟨0 * 4503599627370496 + n, units_span 0 (by omega) h⟩
  | succ k ih =>
      obtain ⟨o, ho⟩ := ih
      by_cases small : o < 4503599627370496
      · refine ⟨2 * o, ?_⟩
        rw [units_of_lt (by omega)] at ho ⊢
        rw [ho]
        ring
      · obtain ⟨s, r, rfl, low, high⟩ := exists_span (Nat.le_of_not_lt small)
        refine ⟨(s + 1) * 4503599627370496 + r, ?_⟩
        rw [units_span s low high.le] at ho
        rw [units_span (s + 1) low high.le, pow_succ, pow_succ, ← mul_assoc, ← mul_assoc, ho]

/-- A magnitude is a multiple of a power of two, or it lies below the span of its multiples. -/
theorem dvd_units_or_lt (o s : Nat) : 2 ^ s ∣ units o ∨ units o < 4503599627370496 * 2 ^ s := by
  by_cases small : o < 4503599627370496
  · right
    rw [units_of_lt (by omega)]
    exact lt_of_lt_of_le small (Nat.le_mul_of_pos_right _ (Nat.two_pow_pos s))
  · obtain ⟨t, r, rfl, low, high⟩ := exists_span (Nat.le_of_not_lt small)
    rw [units_span t low high.le]
    rcases Nat.lt_or_ge t s with below | above
    · right
      calc r * 2 ^ t < 9007199254740992 * 2 ^ t :=
            Nat.mul_lt_mul_of_pos_right high (Nat.two_pow_pos t)
        _ = 4503599627370496 * 2 ^ (t + 1) := by ring
        _ ≤ 4503599627370496 * 2 ^ s := Nat.mul_le_mul_left _ (Nat.pow_le_pow_right (by decide) below)
    · left
      exact (Nat.pow_dvd_pow 2 above).mul_left r

/-! ## Quotients -/

def distance (m n : Nat) : Nat :=
  ((m : Int) - n).natAbs

variable (num : Nat) {den : Nat}

theorem two_mul_distance_roundHalfEven (positive : 0 < den) :
    2 * distance (roundHalfEven num den * den) num ≤ den := by
  have division := Nat.div_add_mod' num den
  have remainder := Nat.mod_lt num positive
  have next : (num / den + 1) * den = num / den * den + den := Nat.succ_mul _ _
  unfold distance roundHalfEven
  dsimp only
  split
  · omega
  split
  · omega
  split <;> omega

theorem roundHalfEven_nearest (positive : 0 < den) (m : Nat) :
    distance (roundHalfEven num den * den) num ≤ distance (m * den) num := by
  have near := two_mul_distance_roundHalfEven num positive
  unfold distance at near ⊢
  -- Another multiple is at least one divisor away from the chosen one.
  rcases Nat.lt_trichotomy m (roundHalfEven num den) with below | same | above
  · have gap : (m + 1) * den ≤ roundHalfEven num den * den := Nat.mul_le_mul_right den below
    rw [Nat.succ_mul] at gap
    omega
  · rw [same]
  · have gap : (roundHalfEven num den + 1) * den ≤ m * den := Nat.mul_le_mul_right den above
    rw [Nat.succ_mul] at gap
    omega

/-! ## The nearest ordinal -/

/-- The binary exponent of the span in which a quotient lies. -/
def span (num den : Nat) : Nat :=
  if num / den < 9007199254740992 then 0 else (num / den).log2 - 52

/-- What the significand of a quotient is counted in. -/
def spacing (num den : Nat) : Nat :=
  den * 2 ^ span num den

theorem spacing_pos (positive : 0 < den) : 0 < spacing num den :=
  Nat.mul_pos positive (Nat.two_pow_pos _)

theorem nearestOrdinal_eq (num den : Nat) : nearestOrdinal num den =
    span num den * 4503599627370496 + roundHalfEven num (spacing num den) := rfl

theorem pow_span {q : Nat} (large : 9007199254740992 ≤ q) :
    4503599627370496 * 2 ^ (q.log2 - 52) ≤ q ∧ q < 9007199254740992 * 2 ^ (q.log2 - 52) := by
  have exponent : 53 ≤ q.log2 := (Nat.le_log2 (by omega)).2 (by omega)
  have low := Nat.log2_self_le (n := q) (by omega)
  have high := Nat.lt_log2_self (n := q)
  have whole : 2 ^ q.log2 = 4503599627370496 * 2 ^ (q.log2 - 52) := by
    rw [← Nat.add_sub_of_le (by omega : 52 ≤ q.log2), pow_add]
    simp
  rw [pow_succ, whole] at high
  omega

theorem lt_spacing (positive : 0 < den) : num < 9007199254740992 * spacing num den := by
  unfold spacing span
  split
  · rename_i small
    simpa using (Nat.div_lt_iff_lt_mul positive).1 small
  · rename_i large
    have bound := (Nat.div_lt_iff_lt_mul positive).1 (pow_span (Nat.le_of_not_lt large)).2
    rw [Nat.mul_left_comm, Nat.mul_comm den]
    exact bound

theorem spacing_le (positive : 0 < den) (h : span num den ≠ 0) :
    4503599627370496 * spacing num den ≤ num := by
  unfold spacing
  unfold span at h ⊢
  split at h
  · exact absurd rfl h
  · rename_i large
    rw [if_neg large]
    have bound := (Nat.le_div_iff_mul_le positive).1 (pow_span (Nat.le_of_not_lt large)).1
    rw [Nat.mul_left_comm, Nat.mul_comm den]
    exact bound

theorem roundHalfEven_spacing_le (positive : 0 < den) :
    roundHalfEven num (spacing num den) ≤ 9007199254740992 := by
  have near := two_mul_distance_roundHalfEven num (spacing_pos num positive)
  have bound := lt_spacing num positive
  by_contra above
  have gap : 9007199254740993 * spacing num den ≤
      roundHalfEven num (spacing num den) * spacing num den :=
    Nat.mul_le_mul_right _ (by omega)
  unfold distance at near
  omega

theorem le_roundHalfEven_spacing (positive : 0 < den) (h : span num den ≠ 0) :
    4503599627370496 ≤ roundHalfEven num (spacing num den) := by
  have near := two_mul_distance_roundHalfEven num (spacing_pos num positive)
  have bound := spacing_le num positive h
  have step := spacing_pos num positive
  by_contra below
  have gap : (roundHalfEven num (spacing num den) + 1) * spacing num den ≤
      4503599627370496 * spacing num den :=
    Nat.mul_le_mul_right _ (by omega)
  rw [Nat.succ_mul] at gap
  unfold distance at near
  omega

theorem units_nearestOrdinal (positive : 0 < den) : units (nearestOrdinal num den) =
    roundHalfEven num (spacing num den) * 2 ^ span num den := by
  have high := roundHalfEven_spacing_le num positive
  rw [nearestOrdinal_eq]
  by_cases low : 4503599627370496 ≤ roundHalfEven num (spacing num den)
  · exact units_span _ low high
  · have least : span num den = 0 := by
      by_contra h
      exact low (le_roundHalfEven_spacing num positive h)
    rw [least, units_of_lt (by omega)]
    simp

theorem units_nearestOrdinal_mul (positive : 0 < den) : units (nearestOrdinal num den) * den =
    roundHalfEven num (spacing num den) * spacing num den := by
  rw [units_nearestOrdinal num positive, Nat.mul_assoc, Nat.mul_comm _ den]
  rfl

/-- No magnitude is closer to a quotient than the one that it is rounded to. -/
theorem nearestOrdinal_nearest (positive : 0 < den) (o : Nat) :
    distance (units (nearestOrdinal num den) * den) num ≤ distance (units o * den) num := by
  have multiple := roundHalfEven_nearest num (spacing_pos num positive)
  rw [units_nearestOrdinal_mul num positive]
  rcases dvd_units_or_lt o (span num den) with ⟨m, hm⟩ | small
  · have same : units o * den = m * spacing num den := by
      rw [hm, spacing]
      ring
    rw [same]
    exact multiple m
  · by_cases least : span num den = 0
    · have same : units o * den = units o * spacing num den := by
        rw [spacing, least]
        simp
      rw [same]
      exact multiple (units o)
    · -- The least multiple of the span lies between the other magnitude and the quotient.
      have edge := multiple 4503599627370496
      have bound := spacing_le num positive least
      have below : units o * den ≤ 4503599627370496 * spacing num den := by
        calc units o * den ≤ 4503599627370496 * 2 ^ span num den * den :=
              Nat.mul_le_mul_right den small.le
          _ = 4503599627370496 * spacing num den := by
              rw [spacing]
              ring
      unfold distance at edge ⊢
      omega

/-- Rounding is wrong by at most half of the spacing. -/
theorem distance_nearestOrdinal_le (positive : 0 < den) :
    9007199254740992 * distance (units (nearestOrdinal num den) * den) num ≤
      max num (4503599627370496 * den) := by
  have near := two_mul_distance_roundHalfEven num (spacing_pos num positive)
  rw [units_nearestOrdinal_mul num positive]
  by_cases least : span num den = 0
  · have same : spacing num den = den := by
      rw [spacing, least]
      simp
    rw [same] at near ⊢
    omega
  · have bound := spacing_le num positive least
    omega

/-- A representable quotient is not changed. -/
theorem nearestOrdinal_eq_of_units (positive : 0 < den) {o : Nat} (h : units o * den = num) :
    nearestOrdinal num den = o := by
  have near := nearestOrdinal_nearest num positive o
  have same : units (nearestOrdinal num den) * den = units o * den := by
    unfold distance at near
    omega
  exact units_strictMono.injective (Nat.eq_of_mul_eq_mul_right positive same)

theorem nearestOrdinal_mono (positive : 0 < den) {m n : Nat} (h : m ≤ n) :
    nearestOrdinal m den ≤ nearestOrdinal n den := by
  by_contra crossed
  have apart : units (nearestOrdinal n den) * den < units (nearestOrdinal m den) * den :=
    Nat.mul_lt_mul_of_pos_right (units_strictMono (Nat.lt_of_not_le crossed)) positive
  -- Two numbers that prefer the larger and the smaller of two magnitudes stand in that order.
  have upper := nearestOrdinal_nearest m positive (nearestOrdinal n den)
  have lower := nearestOrdinal_nearest n positive (nearestOrdinal m den)
  have same : m = n := by
    unfold distance at upper lower
    omega
  rw [same] at crossed
  exact crossed le_rfl

/-! ## Signed numbers -/

def scaled (x : Binary64) : Int :=
  if x.negative then -(units x.ordinal : Int) else units x.ordinal

theorem le_iff_scaled_le {x y : Binary64} : x ≤ y ↔ x.scaled ≤ y.scaled := by
  have order : units x.ordinal ≤ units y.ordinal ↔ x.ordinal ≤ y.ordinal :=
    units_strictMono.le_iff_le
  have converse : units y.ordinal ≤ units x.ordinal ↔ y.ordinal ≤ x.ordinal :=
    units_strictMono.le_iff_le
  have zero := units_eq_zero_iff (o := x.ordinal)
  have zero' := units_eq_zero_iff (o := y.ordinal)
  change x.rank ≤ y.rank ↔ _
  unfold rank scaled
  cases x.negative <;> cases y.negative <;> simp only [Bool.false_eq_true, if_false, if_true] <;>
    omega

theorem sameValue_iff {x y : Binary64} : x.sameValue y = true ↔ x.scaled = y.scaled := by
  have left : x.rank ≤ y.rank ↔ x.scaled ≤ y.scaled := le_iff_scaled_le
  have right : y.rank ≤ x.rank ↔ y.scaled ≤ x.scaled := le_iff_scaled_le
  unfold sameValue
  rw [decide_eq_true_iff]
  omega

theorem sameValue_comm (x y : Binary64) : x.sameValue y = y.sameValue x := by
  simp only [sameValue, eq_comm]

/-! ## Integers -/

theorem exists_unitsPerOne : ∃ k, unitsPerOne = 2 ^ k := by
  unfold unitsPerOne
  generalize 1074 = k
  exact ⟨k, rfl⟩

theorem unitsPerOne_pos : 0 < unitsPerOne := by
  obtain ⟨k, hk⟩ := exists_unitsPerOne
  rw [hk]
  exact Nat.two_pow_pos k

theorem le_unitsPerOne : 4503599627370496 * 1 ≤ unitsPerOne := by
  decide +kernel

def ordinalOf (n : Nat) : Nat :=
  nearestOrdinal (n * unitsPerOne) 1

theorem ordinalOf_mono {m n : Nat} (h : m ≤ n) : ordinalOf m ≤ ordinalOf n :=
  nearestOrdinal_mono Nat.one_pos (Nat.mul_le_mul_right _ h)

theorem ordinalOf_le {n : Nat} (h : n ≤ 18889465931478580854784) : ordinalOf n ≤ maxOrdinal := by
  have top : units (1096 * 4503599627370496 + 4503599627370496) * 1 =
      18889465931478580854784 * unitsPerOne := by
    rw [units_span 1096 le_rfl (by decide), Nat.mul_one]
    decide +kernel
  calc ordinalOf n ≤ ordinalOf 18889465931478580854784 := ordinalOf_mono h
    _ = 1096 * 4503599627370496 + 4503599627370496 := nearestOrdinal_eq_of_units _ Nat.one_pos top
    _ ≤ maxOrdinal := by decide

theorem units_ordinalOf {n : Nat} (h : n ≤ 9007199254740992) :
    units (ordinalOf n) = n * unitsPerOne := by
  obtain ⟨k, hk⟩ := exists_unitsPerOne
  obtain ⟨o, ho⟩ := exists_units h k
  rw [← hk] at ho
  have exact : ordinalOf n = o :=
    nearestOrdinal_eq_of_units _ Nat.one_pos (by rw [ho, Nat.mul_one])
  rw [exact, ho]

variable {i j : Int}

theorem mul_eq_signed (i : Int) (n : Nat) : i * n =
    if i < 0 then -((i.natAbs * n : Nat) : Int) else ((i.natAbs * n : Nat) : Int) := by
  split
  · rename_i negative
    rw [Nat.cast_mul, Int.ofNat_natAbs_of_nonpos negative.le]
    ring
  · rename_i positive
    rw [Nat.cast_mul, Int.natAbs_of_nonneg (by omega)]

def Fits (i : Int) : Prop :=
  ordinalOf i.natAbs ≤ maxOrdinal

theorem fits_of_le (h : i.natAbs ≤ 18889465931478580854784) : Fits i :=
  ordinalOf_le h

theorem scaled_ofInt (h : Fits i) : (ofInt i).scaled =
    if i < 0 then -(units (ordinalOf i.natAbs) : Int) else units (ordinalOf i.natAbs) := by
  have finite : min (nearestOrdinal (i.natAbs * unitsPerOne) 1) maxOrdinal = ordinalOf i.natAbs :=
    Nat.min_eq_left h
  simp only [scaled, ofInt, ofRatio, finite, decide_eq_true_eq]

/-- No number is closer to an integer than the one that it is rounded to. -/
theorem ofInt_nearest (h : Fits i) (x : Binary64) :
    ((ofInt i).scaled - i * unitsPerOne).natAbs ≤ (x.scaled - i * unitsPerOne).natAbs := by
  have near := nearestOrdinal_nearest (i.natAbs * unitsPerOne) Nat.one_pos x.ordinal
  have fromZero := nearestOrdinal_nearest (i.natAbs * unitsPerOne) Nat.one_pos 0
  change distance (units (ordinalOf i.natAbs) * 1) _ ≤ _ at near fromZero
  have zero : units 0 = 0 := units_of_lt (by decide)
  rw [scaled_ofInt h, mul_eq_signed]
  unfold scaled
  generalize i.natAbs * unitsPerOne = target at near fromZero ⊢
  unfold distance at near fromZero
  split <;> split <;> omega

theorem ofInt_mono (hi : Fits i) (hj : Fits j) (h : i ≤ j) : ofInt i ≤ ofInt j := by
  have upper := ofInt_nearest hi (ofInt j)
  have lower := ofInt_nearest hj (ofInt i)
  have order : i * unitsPerOne ≤ j * unitsPerOne :=
    mul_le_mul_of_nonneg_right h (Int.natCast_nonneg _)
  rw [le_iff_scaled_le]
  by_contra crossed
  have same : i * unitsPerOne = j * unitsPerOne := by omega
  have equal : i = j :=
    mul_right_cancel₀ (Int.natCast_ne_zero.2 unitsPerOne_pos.ne') same
  rw [equal] at crossed
  exact crossed le_rfl

theorem Fits.le_iff (hi : Fits i) (hj : Fits j) :
    ofInt i ≤ ofInt j ↔ i ≤ j ∨ (ofInt i).sameValue (ofInt j) = true := by
  rw [le_iff_scaled_le, sameValue_iff]
  constructor
  · intro order
    by_cases h : i ≤ j
    · exact .inl h
    · have converse := le_iff_scaled_le.1 (ofInt_mono hj hi (Int.le_of_not_le h))
      exact .inr (le_antisymm order converse)
  · rintro (h | same)
    · exact le_iff_scaled_le.1 (ofInt_mono hi hj h)
    · exact same.le

theorem scaled_ofInt_of_small (h : i.natAbs ≤ 9007199254740992) :
    (ofInt i).scaled = i * unitsPerOne := by
  rw [scaled_ofInt (fits_of_le (by omega)), units_ordinalOf h, mul_eq_signed]

/-- An integer is rounded by at most one part in two to the power of 53. -/
theorem scaled_ofInt_error (h : Fits i) :
    9007199254740992 * ((ofInt i).scaled - i * unitsPerOne).natAbs ≤ i.natAbs * unitsPerOne := by
  by_cases zero : i = 0
  · subst zero
    rw [scaled_ofInt_of_small (by decide), sub_self, Int.natAbs_zero, Nat.mul_zero]
    exact Nat.zero_le _
  · have error := distance_nearestOrdinal_le (i.natAbs * unitsPerOne) Nat.one_pos
    change _ * distance (units (ordinalOf i.natAbs) * 1) _ ≤ _ at error
    have large : 4503599627370496 * 1 ≤ i.natAbs * unitsPerOne :=
      le_trans le_unitsPerOne (Nat.le_mul_of_pos_left _ (Int.natAbs_pos.2 zero))
    rw [scaled_ofInt h, mul_eq_signed]
    generalize i.natAbs * unitsPerOne = target at error large ⊢
    unfold distance at error
    split <;> omega

/-- Below two to the power of 53 rounding tells an integer from every other one. -/
theorem ofInt_lt_ofInt (hi : Fits i) (hj : Fits j) (h : i < j)
    (small : i.natAbs < 9007199254740992 ∨ j.natAbs < 9007199254740992) :
    (ofInt i).scaled < (ofInt j).scaled := by
  rcases small with small | small
  · have next := ofInt_mono (i := i + 1) (fits_of_le (by omega)) hj h
    rw [le_iff_scaled_le, scaled_ofInt_of_small (i := i + 1) (by omega)] at next
    rw [scaled_ofInt_of_small small.le]
    have step : (i + 1) * (unitsPerOne : Int) = i * unitsPerOne + unitsPerOne := by ring
    have positive := unitsPerOne_pos
    omega
  · have next := ofInt_mono (j := j - 1) hi (fits_of_le (by omega)) (by omega)
    rw [le_iff_scaled_le, scaled_ofInt_of_small (i := j - 1) (by omega)] at next
    rw [scaled_ofInt_of_small small.le]
    have step : (j - 1) * (unitsPerOne : Int) = j * unitsPerOne - unitsPerOne := by ring
    have positive := unitsPerOne_pos
    omega

/-- Different integers with the same rounding are large, and close to each other. -/
theorem Fits.close_of_sameValue (hi : Fits i) (hj : Fits j)
    (same : (ofInt i).sameValue (ofInt j) = true) :
    i = j ∨ 9007199254740992 ≤ i.natAbs ∧ 9007199254740992 ≤ j.natAbs ∧
      9007199254740992 * (i - j).natAbs ≤ i.natAbs + j.natAbs := by
  rw [sameValue_iff] at same
  rcases eq_or_ne i j with equal | different
  · exact .inl equal
  · right
    have large : ¬(i.natAbs < 9007199254740992 ∨ j.natAbs < 9007199254740992) := by
      intro small
      rcases lt_or_gt_of_ne different with below | above
      · exact (ofInt_lt_ofInt hi hj below small).ne same
      · exact (ofInt_lt_ofInt hj hi above small.symm).ne' same
    refine ⟨by omega, by omega, ?_⟩
    have left := scaled_ofInt_error hi
    have right := scaled_ofInt_error hj
    rw [same] at left
    refine Nat.le_of_mul_le_mul_right ?_ unitsPerOne_pos
    calc 9007199254740992 * (i - j).natAbs * unitsPerOne
        = 9007199254740992 * (i * unitsPerOne - j * unitsPerOne : Int).natAbs := by
          rw [← sub_mul, Int.natAbs_mul, Int.natAbs_natCast, Nat.mul_assoc]
      _ ≤ i.natAbs * unitsPerOne + j.natAbs * unitsPerOne := by omega
      _ = (i.natAbs + j.natAbs) * unitsPerOne := (Nat.add_mul _ _ _).symm

/-! ## Integers of 64 bits -/

theorem fits_of_le_word (h : i.natAbs ≤ 18446744073709551616) : Fits i :=
  fits_of_le (h.trans (by decide))

theorem ofInt_le_ofInt_iff (hi : i.natAbs ≤ 18446744073709551616)
    (hj : j.natAbs ≤ 18446744073709551616) :
    ofInt i ≤ ofInt j ↔ i ≤ j ∨ (ofInt i).sameValue (ofInt j) = true :=
  (fits_of_le_word hi).le_iff (fits_of_le_word hj)

theorem close_of_sameValue (hi : i.natAbs ≤ 18446744073709551616)
    (hj : j.natAbs ≤ 18446744073709551616) (same : (ofInt i).sameValue (ofInt j) = true) :
    i = j ∨ 9007199254740992 ≤ i.natAbs ∧ 9007199254740992 ≤ j.natAbs ∧
      9007199254740992 * (i - j).natAbs ≤ i.natAbs + j.natAbs :=
  (fits_of_le_word hi).close_of_sameValue (fits_of_le_word hj) same

end FormRules.Binary64
