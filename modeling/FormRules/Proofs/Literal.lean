import FormRules.Proofs.Decimal
import FormRules.Proofs.Trimming
import FormRules.Rule.Normal

/-!
# Reading written numbers

An integer is read back from its decimal text, and so every bound of 64 bits is
read back from a rule.
-/

namespace FormRules

open Text

/-! ## Integers -/

theorem Text.isBlank_of_isAsciiDigit {c : Char} (h : isAsciiDigit c = true) :
    isBlank c = false := by
  simp only [isAsciiDigit, Bool.and_eq_true, decide_eq_true_eq] at h
  simp only [isBlank, Bool.or_eq_false_iff, Bool.and_eq_false_iff, decide_eq_false_iff_not,
    beq_eq_false_iff_ne]
  omega

namespace Literal

theorem sign_digits (n : Nat) : sign (Decimal.digits n) = (false, Decimal.digits n) := by
  obtain ⟨c, cs, hd, digits⟩ := Decimal.digits_eq_cons n
  have digit := digits c List.mem_cons_self
  have minus : c ≠ '-' := by
    rintro rfl
    exact absurd digit (by decide)
  have plus : c ≠ '+' := by
    rintro rfl
    exact absurd digit (by decide)
  rw [hd]
  unfold sign
  split <;> simp_all

theorem integer?_integer (i : Int) : integer? (Decimal.integer i) = some i := by
  have filled : (Decimal.digits i.natAbs).isEmpty = false := by
    simpa using Decimal.digits_ne_nil i.natAbs
  have digits : (Decimal.digits i.natAbs).all isAsciiDigit = true :=
    List.all_eq_true.2 fun c hc => Decimal.isAsciiDigit_of_mem_digits hc
  by_cases negative : i < 0
  · have written : Decimal.integer i = '-' :: Decimal.digits i.natAbs := by
      simp [Decimal.integer, negative]
    have value : -(i.natAbs : Int) = i := by omega
    rw [written]
    simp only [integer?, sign, filled, digits, Decimal.value_digits, Bool.not_true, Bool.or_self,
      Bool.false_eq_true, if_false, if_true, value]
  · have written : Decimal.integer i = Decimal.digits i.natAbs := by
      simp [Decimal.integer, negative]
    have value : (i.natAbs : Int) = i := by omega
    rw [written]
    simp only [integer?, sign_digits, filled, digits, Decimal.value_digits, Bool.not_true,
      Bool.or_self, Bool.false_eq_true, if_false, value]

theorem int64?_integer (n : Int64) : int64? (Decimal.integer n.toInt) = some n := by
  have fits : Int64.minValue.toInt ≤ n.toInt ∧ n.toInt ≤ Int64.maxValue.toInt := by
    have least := Int64.le_toInt n
    have most := Int64.toInt_lt n
    rw [Int64.toInt_minValue, Int64.toInt_maxValue]
    omega
  rw [int64?, integer?_integer, Option.bind_some, if_pos fits, Int64.ofInt_toInt]

end Literal

/-! ## Bounds -/

theorem Decimal.mem_integer {i : Int} {c : Char} (h : c ∈ integer i) :
    c = '-' ∨ isAsciiDigit c = true := by
  unfold integer at h
  split at h
  · rcases List.mem_cons.1 h with minus | h
    · exact .inl minus
    · exact .inr (isAsciiDigit_of_mem_digits h)
  · exact .inr (isAsciiDigit_of_mem_digits h)

theorem comma_not_mem_integer (i : Int) : ',' ∉ Decimal.integer i := by
  intro h
  rcases Decimal.mem_integer h with minus | digit
  · exact absurd minus (by decide)
  · exact absurd digit (by decide)

theorem isTrimmed_integer (i : Int) : IsTrimmed (Decimal.integer i) := by
  refine isTrimmed_of_no_blank fun c hc => ?_
  rcases Decimal.mem_integer hc with rfl | digit
  · decide
  · exact isBlank_of_isAsciiDigit digit

theorem parseBound?_integer (n : Int64) :
    parseBound? (String.ofList (Decimal.integer n.toInt)) = some n := by
  unfold parseBound?
  simp only [String.toList_ofList, trim_of_isTrimmed (isTrimmed_integer n.toInt),
    Literal.int64?_integer]

end FormRules
