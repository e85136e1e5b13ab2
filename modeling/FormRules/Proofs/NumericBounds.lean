import FormRules.Proofs.Rounding
import FormRules.Proofs.Validation

/-!
# Bounds on numbers

A number field compares its value with a bound after both have been rounded to
binary floating-point numbers.  So an integer that respects a bound is always
accepted, and one that does not is rejected unless it is rounded to the same
number as the bound.  That happens only to integers of two to the power of 53
and more, and only close to the bound.
-/

namespace FormRules

/-! ## Number fields -/

namespace FieldRule

def numberWith (required nullable : Bool) (bound : Constraint) : FieldRule :=
  { base := .number, required, nullable, constraints := [bound] }

variable {now : DateTime} {required nullable : Bool} {record : Option Record} {bound : Constraint}

theorem compile_numberWith {check : Check} (compiled : Check.of? now bound = .ok (some check)) :
    FieldSchema.compile now (numberWith required nullable bound) =
      .ok ⟨.number, required, nullable, [check]⟩ := by
  simp [FieldSchema.compile, numberWith, compiled, bind, Except.bind, pure, Except.pure]

theorem accepts_numberWith_iff (check : Check) (compiled : Check.of? now bound = .ok (some check))
    (n : Number) :
    (numberWith required nullable bound).Accepts now (.number n) record ↔
      check.complaint? .number (.number n) record = none := by
  unfold Accepts
  rw [compile_numberWith compiled]
  have passes : (⟨.number, required, nullable, [check]⟩ : FieldSchema).complaintAt? (.number n)
      record = none ↔ check.complaint? .number (.number n) record = none := by
    rw [FieldSchema.complaintAt?_eq_none_iff]
    simp [BaseType.admits]
  simp [FieldSchema.complaint?_of_ne_null, passes]

end FieldRule

/-! ## Rounded comparisons -/

/-- A number field rejects no integer that respects its bound.  It accepts another one only if that
is rounded to the same floating-point number as the bound, which needs both to have a magnitude of
two to the power of 53 at least and to differ by less than one part in so many. -/
theorem FieldRule.bounds_up_to_rounding (now : DateTime) (required nullable : Bool)
    (record : Option Record) (n : Int64) (v : Int)
    (fits : -9223372036854775808 ≤ v ∧ v < 18446744073709551616) :
    let accepted (bound : Constraint) : Prop :=
      (numberWith required nullable bound).Accepts now (.number (.int v fits)) record
    let alike : Prop := (Binary64.ofInt v).sameValue (Binary64.ofInt n.toInt) = true
    (accepted (.min n) ↔ n.toInt ≤ v ∨ alike) ∧
      (accepted (.max n) ↔ v ≤ n.toInt ∨ alike) ∧
      (accepted (.size n) ↔ v = n.toInt ∨ alike) ∧
      (alike → v = n.toInt ∨
        9007199254740992 ≤ v.natAbs ∧ 9007199254740992 ≤ n.toInt.natAbs ∧
          9007199254740992 * (v - n.toInt).natAbs ≤ v.natAbs + n.toInt.natAbs) := by
  intro accepted alike
  have hv : v.natAbs ≤ 18446744073709551616 := by omega
  have hn : n.toInt.natAbs ≤ 18446744073709551616 := by
    have low := Int64.le_toInt n
    have high := Int64.toInt_lt n
    omega
  refine ⟨?_, ?_, ?_, Binary64.close_of_sameValue hv hn⟩
  · calc accepted (.min n)
        ↔ ensure (decide (Binary64.ofInt n.toInt ≤ Binary64.ofInt v)) (.belowMin n none) = none :=
          accepts_numberWith_iff (.min n) rfl _
      _ ↔ n.toInt ≤ v ∨ alike := by
          rw [ensure_eq_none_iff, decide_eq_true_iff, Binary64.ofInt_le_ofInt_iff hn hv,
            Binary64.sameValue_comm]
  · calc accepted (.max n)
        ↔ ensure (decide (Binary64.ofInt v ≤ Binary64.ofInt n.toInt)) (.aboveMax n none) = none :=
          accepts_numberWith_iff (.max n) rfl _
      _ ↔ v ≤ n.toInt ∨ alike := by
          rw [ensure_eq_none_iff, decide_eq_true_iff, Binary64.ofInt_le_ofInt_iff hv hn]
  · calc accepted (.size n)
        ↔ ensure ((Binary64.ofInt v).sameValue (Binary64.ofInt n.toInt)) (.notSize n none) = none :=
          accepts_numberWith_iff (.size n) rfl _
      _ ↔ alike := ensure_eq_none_iff
      _ ↔ v = n.toInt ∨ alike := by
          have equal : v = n.toInt → alike := fun h => by simp [alike, h, Binary64.sameValue]
          exact ⟨.inr, fun h => h.elim equal id⟩

/-- The least bound that is rounded away, and the integer below it. -/
theorem FieldRule.bounds_at_first_gap :
    let v : Int := 9007199254740992
    let n : Int64 := 9007199254740993
    let fits : -9223372036854775808 ≤ v ∧ v < 18446744073709551616 := by decide
    let accepted (bound : Constraint) : Prop :=
      (numberWith true false bound).Accepts .epoch (.number (.int v fits)) none
    accepted (.min n) ∧ accepted (.max n) ∧ accepted (.size n) := by
  intro v n fits accepted
  obtain ⟨least, most, exactly, -⟩ := FieldRule.bounds_up_to_rounding .epoch true false none n v fits
  have alike : (Binary64.ofInt v).sameValue (Binary64.ofInt n.toInt) = true := by decide +kernel
  exact ⟨least.2 (.inr alike), most.2 (.inr alike), exactly.2 (.inr alike)⟩

/-- A number field accepts an integer below its lower bound. -/
theorem FieldRule.lower_bound_not_respected :
    ¬∀ (n : Int64) (v : Int) (fits : -9223372036854775808 ≤ v ∧ v < 18446744073709551616),
      (numberWith false false (.min n)).Accepts .epoch (.number (.int v fits)) none ↔
        n.toInt ≤ v := by
  intro exact
  have accepted : (numberWith false false (.min 9007199254740993)).Accepts .epoch
      (.number (.int 9007199254740992 (by decide))) none :=
    (accepts_numberWith_iff (.min 9007199254740993) rfl _).2 (by decide +kernel)
  have respected := (exact 9007199254740993 9007199254740992 (by decide)).1 accepted
  revert respected
  decide

end FormRules
