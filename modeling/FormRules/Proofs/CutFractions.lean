import FormRules.Proofs.Json.Numerals
import FormRules.Proofs.Literal
import FormRules.Proofs.WholeParts
import Mathlib.Data.List.Induction

/-!
# Bounds with a fraction

A bound is written as an integer or as a decimal that loses its fraction.  An
integer is read exactly, or not at all if it does not fit 64 bits.  A decimal is
rounded to a floating-point number first, so that the integer before its point is
kept only up to one part in two to the power of 53.
-/

namespace FormRules

open Text Json.Decode

/-! ## Digits -/

namespace Decimal

variable {ds : List Char}

theorem value_append (cs ds : List Char) : value (cs ++ ds) = value cs * 10 ^ ds.length + value ds := by
  induction ds using List.reverseRecOn with
  | nil => simp [value]
  | append_singleton ds d ih =>
      rw [← List.append_assoc, value_append_singleton, ih, value_append_singleton,
        List.length_append, List.length_singleton, pow_succ]
      ring

theorem value_lt (digits : ∀ c ∈ ds, isAsciiDigit c = true) : value ds < 10 ^ ds.length := by
  induction ds using List.reverseRecOn with
  | nil => simp [value]
  | append_singleton ds d ih =>
      have front := ih fun c mem => digits c (List.mem_append_left _ mem)
      have digit := digits d (List.mem_append_right _ List.mem_cons_self)
      simp only [isAsciiDigit, Bool.and_eq_true, decide_eq_true_eq] at digit
      rw [value_append_singleton, List.length_append, List.length_singleton, pow_succ, digitValue]
      omega

/-- The fraction of a decimal is less than one. -/
theorem value_append_bounds (whole : List Char) (digits : ∀ c ∈ ds, isAsciiDigit c = true) :
    value whole * 10 ^ ds.length ≤ value (whole ++ ds) ∧
      value (whole ++ ds) < (value whole + 1) * 10 ^ ds.length := by
  have fraction := value_lt digits
  rw [value_append, Nat.succ_mul]
  omega

end Decimal

/-! ## Texts of bounds -/

structure BoundText where
  before : List Char
  sign : Option Char
  whole : List Char
  fraction : Option (List Char)
  after : List Char
  blankBefore : allBlank before = true
  isSign : ∀ c ∈ sign, c = '+' ∨ c = '-'
  whole_ne_nil : whole ≠ []
  wholeDigits : ∀ c ∈ whole, isAsciiDigit c = true
  fractionDigits : ∀ ds ∈ fraction, ∀ c ∈ ds, isAsciiDigit c = true
  blankAfter : allBlank after = true

namespace BoundText

variable (t : BoundText)

def unsigned : List Char :=
  match t.fraction with
  | none => t.whole
  | some ds => t.whole ++ '.' :: ds

def text : String :=
  String.ofList (t.before ++ (t.sign.toList ++ t.unsigned ++ t.after))

def negative : Bool := t.sign = some '-'

def digits : List Char := t.whole ++ t.fraction.getD []

/-- A power of ten with a zero for each digit behind the point. -/
def scale : Nat := 10 ^ (t.fraction.getD []).length

def signed (n : Nat) : Int := if t.negative then -(n : Int) else n

def integer : Int := t.signed (Decimal.value t.whole)

def value : ℚ := t.signed (Decimal.value t.digits) / t.scale

theorem scale_pos : 0 < t.scale := Nat.pow_pos (by decide)

theorem div_scale : Decimal.value t.digits / t.scale = Decimal.value t.whole := by
  have behind : ∀ c ∈ t.fraction.getD [], isAsciiDigit c = true := by
    cases h : t.fraction with
    | none => simp
    | some ds => exact t.fractionDigits ds h
  obtain ⟨low, high⟩ := Decimal.value_append_bounds t.whole behind
  exact Nat.div_eq_of_lt_le low high

/-! ### Reading -/

theorem unsigned_eq_cons : ∃ c cs, t.unsigned = c :: cs ∧ isAsciiDigit c = true := by
  obtain ⟨c, cs, front⟩ := List.exists_cons_of_ne_nil t.whole_ne_nil
  have digit := t.wholeDigits c (by rw [front]; exact List.mem_cons_self)
  cases h : t.fraction with
  | none => exact ⟨c, cs, by simp [unsigned, h, front], digit⟩
  | some ds => exact ⟨c, cs ++ '.' :: ds, by simp [unsigned, h, front], digit⟩

theorem mem_unsigned {c : Char} (mem : c ∈ t.unsigned) : c = '.' ∨ isAsciiDigit c = true := by
  unfold unsigned at mem
  split at mem
  · exact .inr (t.wholeDigits c mem)
  · next ds h =>
    rcases List.mem_append.1 mem with whole | behind
    · exact .inr (t.wholeDigits c whole)
    · exact (List.mem_cons.1 behind).imp_right (t.fractionDigits ds h c)

theorem sign_append : Literal.sign (t.sign.toList ++ t.unsigned) = (t.negative, t.unsigned) := by
  cases h : t.sign with
  | none =>
      obtain ⟨c, cs, front, digit⟩ := t.unsigned_eq_cons
      have minus : c ≠ '-' := by
        rintro rfl
        exact absurd digit (by decide)
      have plus : c ≠ '+' := by
        rintro rfl
        exact absurd digit (by decide)
      simp [Literal.sign, front, negative, h, minus, plus]
  | some c =>
      rcases t.isSign c h with rfl | rfl <;> simp [Literal.sign, negative, h]

theorem isTrimmed_core : IsTrimmed (t.sign.toList ++ t.unsigned) := by
  apply isTrimmed_of_no_blank
  intro c mem
  rcases List.mem_append.1 mem with sign | mem
  · rcases t.isSign c (by simpa using sign) with rfl | rfl <;> decide
  · rcases t.mem_unsigned mem with rfl | digit
    · decide
    · exact isBlank_of_isAsciiDigit digit

theorem trim_text : trim t.text.toList = t.sign.toList ++ t.unsigned := by
  rw [text, String.toList_ofList, trim_padded t.blankBefore t.blankAfter,
    trim_of_isTrimmed t.isTrimmed_core]

/-- A text without a point is an integer, and one with a point is none. -/
theorem integer?_core : Literal.integer? (t.sign.toList ++ t.unsigned) =
    if t.fraction.isNone then some t.integer else none := by
  obtain ⟨c, cs, front, -⟩ := t.unsigned_eq_cons
  have filled : t.unsigned.isEmpty = false := by rw [front]; rfl
  unfold Literal.integer?
  rw [t.sign_append]
  simp only [filled, Bool.false_or]
  cases h : t.fraction with
  | none =>
      have all : t.unsigned.all isAsciiDigit = true := by
        simpa [unsigned, h] using t.wholeDigits
      have same : t.unsigned = t.whole := by simp [unsigned, h]
      rw [all, same]
      rfl
  | some ds =>
      have point : t.unsigned.all isAsciiDigit = false := by
        have no : isAsciiDigit '.' = false := by decide
        simp [unsigned, h, no]
      simp [point]

theorem real?_core : Literal.real? (t.sign.toList ++ t.unsigned) =
    some (.decimal t.negative (Decimal.value t.digits) (-((t.fraction.getD []).length : Int))) := by
  obtain ⟨d, rest, whole⟩ := List.exists_cons_of_ne_nil t.whole_ne_nil
  unfold Literal.real?
  rw [t.sign_append]
  cases h : t.fraction with
  | none =>
      have span : Literal.spanDigits t.whole = (t.whole, []) := by
        have parts := @takeWhile_append_of_all isAsciiDigit _ [] t.wholeDigits (by simp)
        simpa [Literal.spanDigits] using parts
      have same : t.unsigned = t.whole := by simp [unsigned, h]
      simp only [same, span]
      simp [digits, h, whole, Literal.exponent?]
  | some ds =>
      have front : Literal.spanDigits (t.whole ++ '.' :: ds) = (t.whole, '.' :: ds) := by
        have parts := @takeWhile_append_of_all isAsciiDigit _ ('.' :: ds) t.wholeDigits (by simp; decide)
        simpa [Literal.spanDigits] using parts
      have behind : Literal.spanDigits ds = (ds, []) := by
        have parts := @takeWhile_append_of_all isAsciiDigit _ [] (t.fractionDigits ds h) (by simp)
        simpa [Literal.spanDigits] using parts
      have same : t.unsigned = t.whole ++ '.' :: ds := by simp [unsigned, h]
      simp only [same, front, behind]
      simp [digits, h, whole, Literal.exponent?]

end BoundText

/-- A decimal is rounded and then loses its fraction. -/
theorem truncatedInt64?_decimal (negative : Bool) (n k : Nat) :
    truncatedInt64? (.decimal negative n (-(k : Int))) =
      if Binary64.wholeNearest n (10 ^ k) < 9223372036854775808 then
        some (Int64.ofInt (if negative then -(Binary64.wholeNearest n (10 ^ k) : Int)
          else Binary64.wholeNearest n (10 ^ k)))
      else none := by
  have positive : 0 < 10 ^ k := Nat.pow_pos (by decide)
  have rounded : Literal.toBinary64? negative n (-(k : Int)) = Binary64.ofOrdinal? negative
      (Binary64.nearestOrdinal (n * Binary64.unitsPerOne) (10 ^ k)) := by
    by_cases zero : n = 0
    · have least : Binary64.nearestOrdinal (n * Binary64.unitsPerOne) (10 ^ k) = 0 := by
        apply Binary64.nearestOrdinal_eq_of_units _ positive
        rw [zero, Binary64.units_of_lt (by decide), Nat.zero_mul, Nat.zero_mul]
      rw [least, Literal.toBinary64?, if_pos zero]
      rfl
    · simp [Literal.toBinary64?, zero, Binary64.ofRatio?]
  have read : truncatedInt64? (.decimal negative n (-(k : Int))) =
      (Literal.toBinary64? negative n (-(k : Int))).bind fun x =>
        if x.truncated < 9223372036854775808 then some (Int64.ofInt x.toInt) else none := by
    rw [truncatedInt64?]
    cases Literal.toBinary64? negative n (-(k : Int)) <;> rfl
  rw [read, rounded, Binary64.ofOrdinal?]
  by_cases finite :
      Binary64.nearestOrdinal (n * Binary64.unitsPerOne) (10 ^ k) < 9218868437227405312
  · rw [dif_pos finite, Option.bind_some, Binary64.toInt]
    rfl
  · rw [dif_neg finite, if_neg (mt Binary64.nearestOrdinal_lt_of_wholeNearest_lt finite),
      Option.bind_none]

namespace BoundText

variable (t : BoundText)

/-- The magnitude that a decimal is read as. -/
def rounded : Nat := Binary64.wholeNearest (Decimal.value t.digits) t.scale

theorem toInt_ofInt {i : Int} (fits : -9223372036854775808 ≤ i ∧ i < 9223372036854775808) :
    (Int64.ofInt i).toInt = i :=
  Int64.toInt_ofInt_of_le fits.1 fits.2

theorem truncatedInt64?_core : (Literal.real? (t.sign.toList ++ t.unsigned)).bind truncatedInt64? =
    if t.rounded < 9223372036854775808 then some (Int64.ofInt (t.signed t.rounded)) else none := by
  rw [t.real?_core, Option.bind_some, truncatedInt64?_decimal]
  rfl

theorem int64?_core : Literal.int64? (t.sign.toList ++ t.unsigned) =
    if t.fraction.isNone ∧ -9223372036854775808 ≤ t.integer ∧ t.integer < 9223372036854775808 then
      some (Int64.ofInt t.integer)
    else none := by
  have least : Int64.minValue.toInt = -9223372036854775808 := rfl
  have most : Int64.maxValue.toInt = 9223372036854775807 := rfl
  rw [Literal.int64?, t.integer?_core]
  cases t.fraction with
  | none =>
      have bound : t.integer ≤ 9223372036854775807 ↔ t.integer < 9223372036854775808 := by omega
      simp [least, most, bound]
  | some ds => rfl

theorem rounded_lt_iff : t.rounded < 9223372036854775808 ↔
    Decimal.value t.whole < 9223372036854775296 := by
  rw [rounded, Binary64.wholeNearest_lt_iff _ t.scale_pos, ← t.div_scale,
    Nat.div_lt_iff_lt_mul t.scale_pos]

/-- An integer is read as it stands, and not at all if it does not fit. -/
theorem parseBound?_of_whole (whole : t.fraction = none) (n : Int64) :
    parseBound? t.text = some n ↔ n.toInt = t.integer := by
  have low := Int64.le_toInt n
  have high := Int64.toInt_lt n
  unfold parseBound?
  simp only [t.trim_text, t.int64?_core, whole, Option.isNone_none, true_and]
  by_cases fits : -9223372036854775808 ≤ t.integer ∧ t.integer < 9223372036854775808
  · rw [if_pos fits, Option.some.injEq]
    constructor
    · rintro rfl
      exact toInt_ofInt fits
    · intro same
      rw [← same, Int64.ofInt_toInt]
  · have large : ¬t.rounded < 9223372036854775808 := by
      rw [t.rounded_lt_iff]
      unfold integer signed at fits
      split at fits <;> omega
    rw [if_neg fits, t.truncatedInt64?_core, if_neg large]
    constructor
    · rintro ⟨⟩
    · intro same
      rw [← same] at fits
      exact absurd ⟨low, high⟩ fits

/-- A decimal is read as the whole part of what it is rounded to. -/
theorem parseBound?_of_fraction (point : t.fraction ≠ none) : parseBound? t.text =
    if t.rounded < 9223372036854775808 then some (Int64.ofInt (t.signed t.rounded)) else none := by
  have none_ : t.fraction.isNone = false := by
    cases h : t.fraction with
    | none => exact absurd h point
    | some ds => rfl
  unfold parseBound?
  simp only [t.trim_text, t.int64?_core, none_, Bool.false_eq_true, false_and, if_false]
  exact t.truncatedInt64?_core

theorem comma_not_mem_text : ',' ∉ t.text.toList := by
  have plain {cs : List Char} (blank : allBlank cs = true) : ',' ∉ cs :=
    not_mem_of_allBlank blank rfl
  rw [text, String.toList_ofList]
  simp only [List.mem_append, not_or]
  refine ⟨plain t.blankBefore, ⟨fun sign => ?_, fun digit => ?_⟩, plain t.blankAfter⟩
  · rcases t.isSign ',' (by simpa using sign) with eq | eq <;> exact absurd eq (by decide)
  · rcases t.mem_unsigned digit with eq | digit
    · exact absurd eq (by decide)
    · exact absurd digit (by decide)

theorem natAbs_signed (n : Nat) : (t.signed n).natAbs = n := by
  unfold signed
  split <;> simp

theorem abs_value : |t.value| = Decimal.value t.digits / t.scale := by
  have nonneg : (0 : ℚ) ≤ Decimal.value t.digits / t.scale := by positivity
  unfold value signed
  split
  · push_cast
    rw [neg_div, abs_neg, abs_of_nonneg nonneg]
  · exact abs_of_nonneg nonneg

theorem abs_signed_sub (n : Nat) : |(t.signed n : ℚ) - t.value| =
    |(n : ℚ) * t.scale - Decimal.value t.digits| / t.scale := by
  have positive : (0 : ℚ) < t.scale := Nat.cast_pos.2 t.scale_pos
  have apart : (n : ℚ) - Decimal.value t.digits / t.scale =
      ((n : ℚ) * t.scale - Decimal.value t.digits) / t.scale := by
    rw [sub_div, mul_div_cancel_right₀ _ positive.ne']
  rw [← abs_of_pos positive, ← abs_div, abs_of_pos positive, ← apart]
  unfold value signed
  split
  · push_cast
    rw [neg_div, sub_neg_eq_add, neg_add_eq_sub, abs_sub_comm]
  · rfl

theorem natAbs_integer : t.integer.natAbs = Decimal.value t.whole := t.natAbs_signed _

theorem parseBound?_eq_none_iff (point : t.fraction ≠ none) :
    parseBound? t.text = none ↔ 9223372036854775296 ≤ t.integer.natAbs := by
  have limit := t.rounded_lt_iff
  rw [t.parseBound?_of_fraction point, t.natAbs_integer]
  split
  · simp only [reduceCtorEq, false_iff]
    omega
  · simp only [true_iff]
    omega

theorem parseBound?_eq_some_iff (point : t.fraction ≠ none) (n : Int64) :
    parseBound? t.text = some n ↔
      t.rounded < 9223372036854775808 ∧ n.toInt = t.signed t.rounded := by
  rw [t.parseBound?_of_fraction point]
  constructor
  · intro read
    split at read
    · next fits =>
      cases read
      refine ⟨fits, toInt_ofInt ?_⟩
      unfold signed
      split <;> omega
    · cases read
  · rintro ⟨fits, same⟩
    rw [if_pos fits, ← same, Int64.ofInt_toInt]

variable {t} {n : Int64}

/-- What is read of a decimal is the whole part of the number nearest to it. -/
theorem exists_nearest (point : t.fraction ≠ none) (read : parseBound? t.text = some n) :
    ∃ x : Binary64, (∀ y : Binary64, |x.value - t.value| ≤ |y.value - t.value|) ∧
      n.toInt = x.toInt := by
  obtain ⟨small, same⟩ := (t.parseBound?_eq_some_iff point n).1 read
  have finite := Binary64.nearestOrdinal_lt_of_wholeNearest_lt small
  exact ⟨⟨t.negative, _, finite⟩, Binary64.value_nearest t.negative t.scale_pos finite, same⟩

/-- What is read of a decimal is its integer, or it is wrong by one part in two to the power of 53. -/
theorem toInt_eq_or_near (point : t.fraction ≠ none) (read : parseBound? t.text = some n) :
    n.toInt = t.integer ∨ 9007199254740992 * |(n.toInt : ℚ) - t.value| ≤ |t.value| := by
  obtain ⟨-, same⟩ := (t.parseBound?_eq_some_iff point n).1 read
  rcases Binary64.wholeNearest_error (Decimal.value t.digits) t.scale_pos with kept | near
  · left
    rw [same, integer, rounded, kept, t.div_scale]
  · right
    have positive : (0 : ℚ) < t.scale := Nat.cast_pos.2 t.scale_pos
    have scaled : (9007199254740992 : ℚ) * |(t.rounded : ℚ) * t.scale - Decimal.value t.digits| ≤
        Decimal.value t.digits := by
      have cast : ((9007199254740992 * Binary64.distance (t.rounded * t.scale)
          (Decimal.value t.digits) : Nat) : ℚ) ≤ Decimal.value t.digits := Nat.cast_le.2 near
      unfold Binary64.distance at cast
      push_cast [Nat.cast_natAbs] at cast
      exact cast
    rw [same, t.abs_signed_sub, t.abs_value, ← mul_div_assoc]
    exact div_le_div_of_nonneg_right scaled positive.le

end BoundText

theorem parseBound?_integer_point_zero (n : Int64) :
    parseBound? (String.ofList (Decimal.integer n.toInt ++ ['.', '0'])) = some n ↔
      n ≠ Int64.minValue ∧ ∃ m k : Nat, m < 9007199254740992 ∧ n.toInt.natAbs = m * 2 ^ k := by
  let t : BoundText :=
    { before := []
      sign := if n.toInt < 0 then some '-' else none
      whole := Decimal.digits n.toInt.natAbs
      fraction := some ['0']
      after := []
      blankBefore := rfl
      isSign := by split <;> simp
      whole_ne_nil := Decimal.digits_ne_nil _
      wholeDigits := fun c mem => Decimal.isAsciiDigit_of_mem_digits mem
      fractionDigits := by rintro ds ⟨⟩; exact List.all_eq_true.1 rfl
      blankAfter := rfl }
  have sign : t.negative = decide (n.toInt < 0) := by
    by_cases h : n.toInt < 0 <;> simp [BoundText.negative, t, h]
  have text : t.text = String.ofList (Decimal.integer n.toInt ++ ['.', '0']) := by
    by_cases h : n.toInt < 0 <;> simp [BoundText.text, BoundText.unsigned, Decimal.integer, t, h]
  have whole : Decimal.value t.whole = n.toInt.natAbs := Decimal.value_digits _
  have digits : Decimal.value t.digits = n.toInt.natAbs * 10 := by
    change Decimal.value (Decimal.digits n.toInt.natAbs ++ ['0']) = _
    rw [Decimal.value_append_singleton, Decimal.value_digits]
    rfl
  have scale : t.scale = 10 := rfl
  have signed (r : Nat) : n.toInt = t.signed r ↔ r = n.toInt.natAbs := by
    unfold BoundText.signed
    rw [sign]
    by_cases h : n.toInt < 0 <;> simp only [h, decide_true, decide_false, if_true, if_false, Bool.false_eq_true] <;> omega
  have least : n ≠ Int64.minValue ↔ n.toInt.natAbs < 9223372036854775808 := by
    have low := Int64.le_toInt n
    have high := Int64.toInt_lt n
    have value : Int64.minValue.toInt = -9223372036854775808 := rfl
    rw [Ne, ← Int64.toInt_inj, value]
    omega
  rw [← text, t.parseBound?_eq_some_iff (by simp [t]), signed, BoundText.rounded, digits, scale, least,
    ← Binary64.wholeNearest_eq_self_iff (show 0 < 10 by decide)]
  constructor
  · rintro ⟨small, kept⟩
    exact ⟨by rwa [kept] at small, kept⟩
  · rintro ⟨small, kept⟩
    exact ⟨by rwa [kept], kept⟩

/-! ## Constraints -/

namespace RuleSpec

/-- The names of the bounds, with the constraints that they give. -/
def bounds : List (String × Directive × (Int64 → Constraint)) :=
  [("min", .min, .min), ("max", .max, .max), ("size", .size, .size)]

theorem constraints_of_mem_bounds {e : String × Directive × (Int64 → Constraint)}
    (mem : e ∈ bounds) {p : String} (plain : ',' ∉ p.toList) (field : String) :
    (RuleToken.of e.1 (some p)).constraints field = ((parseBound? p).map e.2.2).toList := by
  rw [← RuleToken.bound?_zero plain e.1]
  simp only [bounds, List.mem_cons, List.not_mem_nil, or_false] at mem
  rcases mem with rfl | rfl | rfl <;> rfl

theorem normalize_bound {e : String × Directive × (Int64 → Constraint)} (mem : e ∈ bounds)
    {p : String} (plain : ',' ∉ p.toList) (field : String) (before after : List RuleAtom) :
    (list (before ++ .text (e.1 ++ ":" ++ p) :: after)).normalize field =
      { (list (before ++ after)).normalize field with
        constraints := ((list before).normalize field).constraints ++
          ((parseBound? p).map e.2.2).toList ++ ((list after).normalize field).constraints } := by
  have known : Directive.ofName? e.1 = some e.2.1 ∧ e.2.1.constrains = true ∧ e.2.1.type? = none := by
    simp only [bounds, List.mem_cons, List.not_mem_nil, or_false] at mem
    rcases mem with rfl | rfl | rfl <;> exact ⟨rfl, rfl, rfl⟩
  obtain ⟨name, adds, untyped⟩ := known
  have token : (RuleAtom.text (e.1 ++ ":" ++ p)).token? = some (.of e.1 (some p)) :=
    RuleAtom.token?_of_render rfl name
  rw [normalize_insert token name adds untyped, constraints_of_mem_bounds mem plain]

/-- A lower bound, an upper bound or a size gives the constraint with the number that its text is
read as, or none if that does not fit 64 bits, whatever stands around the text and around the rule.
A text without a fraction is read exactly.  A text with one is rounded first: what is read is the
whole part of a floating-point number that no other one is nearer to, and so the integer before the
point, or a number wrong by at most one part in two to the power of 53; from 512 below the end of
the range on it counts as beyond.  So a fraction of zero changes nothing just for the integers that
53 significant bits hold, the least one apart. -/
theorem fractions_cut_after_rounding (t : BoundText) :
    (∀ e ∈ bounds, ∀ (field : String) (before after : List RuleAtom),
      (list (before ++ .text (e.1 ++ ":" ++ t.text) :: after)).normalize field =
        { (list (before ++ after)).normalize field with
          constraints := ((list before).normalize field).constraints ++
            ((parseBound? t.text).map e.2.2).toList ++
              ((list after).normalize field).constraints }) ∧
    (t.fraction = none → ∀ n, parseBound? t.text = some n ↔ n.toInt = t.integer) ∧
    (t.fraction ≠ none →
      (parseBound? t.text = none ↔ 9223372036854775296 ≤ t.integer.natAbs) ∧
      ∀ n, parseBound? t.text = some n →
        (∃ x : Binary64, (∀ y : Binary64, |x.value - t.value| ≤ |y.value - t.value|) ∧
          n.toInt = x.toInt) ∧
        (n.toInt = t.integer ∨
          9007199254740992 * |(n.toInt : ℚ) - t.value| ≤ |t.value|)) ∧
    ∀ n : Int64, parseBound? (String.ofList (Decimal.integer n.toInt ++ ['.', '0'])) =
        parseBound? (String.ofList (Decimal.integer n.toInt)) ↔
      n ≠ Int64.minValue ∧ ∃ m k : Nat, m < 9007199254740992 ∧ n.toInt.natAbs = m * 2 ^ k := by
  refine ⟨fun e mem field before after => ?_, t.parseBound?_of_whole, fun point => ⟨?_, ?_⟩, ?_⟩
  · exact normalize_bound mem t.comma_not_mem_text field before after
  · exact t.parseBound?_eq_none_iff point
  · exact fun n read => ⟨BoundText.exists_nearest point read, BoundText.toInt_eq_or_near point read⟩
  · intro n
    rw [parseBound?_integer]
    exact parseBound?_integer_point_zero n

/-- A negative bound between blanks loses its fraction, and a fraction of zero changes nothing. -/
theorem fraction_of_negative_bound_cut :
    let t : BoundText :=
      { before := [' ']
        sign := some '-'
        whole := ['2']
        fraction := some ['7', '5']
        after := ['\t']
        blankBefore := rfl
        isSign := by simp
        whole_ne_nil := by simp
        wholeDigits := List.all_eq_true.1 rfl
        fractionDigits := by rintro ds ⟨⟩; exact List.all_eq_true.1 rfl
        blankAfter := rfl }
    t.integer = -2 ∧ t.value = -11 / 4 ∧
    (list [.text "required", .text ("max:" ++ t.text)]).normalize "n" =
      { required := true, constraints := [.max (-2)] } ∧
    (∃ x : Binary64, (∀ y : Binary64, |x.value - t.value| ≤ |y.value - t.value|) ∧ x.toInt = -2) ∧
    parseBound? "-2.0" = parseBound? "-2" := by
  intro t
  obtain ⟨rules, -, fraction, zero⟩ := fractions_cut_after_rounding t
  have read : parseBound? t.text = some (-2) := by decide +kernel
  obtain ⟨x, nearest, same⟩ := ((fraction (by simp [t])).2 (-2) read).1
  have rule := rules ("max", .max, .max) (by simp [bounds]) "n" [.text "required"] []
  rw [read] at rule
  have value : t.value = -11 / 4 := by
    have digits : Decimal.value t.digits = 275 := by decide
    have scale : t.scale = 100 := rfl
    have sign : t.signed 275 = -275 := rfl
    rw [BoundText.value, digits, scale, sign]
    norm_num
  have whole : String.ofList (Decimal.integer (-2 : Int64).toInt) = "-2" := by decide +kernel
  have pointed : String.ofList (Decimal.integer (-2 : Int64).toInt ++ ['.', '0']) = "-2.0" := by
    decide +kernel
  have kept := (zero (-2)).2 ⟨by decide, 2, 0, by decide, by decide⟩
  rw [whole, pointed] at kept
  exact ⟨rfl, value, rule, ⟨x, nearest, same.symm⟩, kept⟩

/-- Not every bound with a fraction gives its integer: the first odd integer that is rounded gives
the one below it. -/
theorem fraction_not_only_cut : ¬∀ (t : BoundText) (n : Int64), n.toInt = t.integer →
    (list [.text ("min:" ++ t.text)]).normalize "n" = { constraints := [.min n] } := by
  intro cut
  have rule := cut
    { before := []
      sign := none
      whole := "9007199254740993".toList
      fraction := some ['0']
      after := []
      blankBefore := rfl
      isSign := by simp
      whole_ne_nil := by decide
      wholeDigits := List.all_eq_true.1 rfl
      fractionDigits := by rintro ds ⟨⟩; exact List.all_eq_true.1 rfl
      blankAfter := rfl } 9007199254740993 (by decide +kernel)
  have read : (list [.text "min:9007199254740993.0"]).normalize "n" =
      { constraints := [.min 9007199254740992] } := by decide +kernel
  exact absurd (read.symm.trans rule) (by decide)

end RuleSpec

end FormRules
