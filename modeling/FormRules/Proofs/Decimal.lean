import FormRules.Numeric.Decimal
import FormRules.Text.Blank

/-!
# Decimal digits

The digits of a natural number are ASCII digits, there is at least one of them,
a leading zero stands only for zero, and their value is the number.
-/

namespace FormRules.Decimal

open Text

theorem digitChar_mod (d : Nat) : digitChar (d % 10) = digitChar d := by
  unfold digitChar
  rw [Nat.mod_mod]

theorem digitChar_lt {d : Nat} (h : d < 10) :
    isAsciiDigit (digitChar d) = true ∧ digitValue (digitChar d) = d := by
  have hall : ∀ d < 10, isAsciiDigit (digitChar d) = true ∧ digitValue (digitChar d) = d := by
    decide
  exact hall d h

theorem isAsciiDigit_digitChar (d : Nat) : isAsciiDigit (digitChar d) = true := by
  rw [← digitChar_mod]
  exact (digitChar_lt (Nat.mod_lt d (by decide))).1

theorem digitValue_digitChar (d : Nat) : digitValue (digitChar d) = d % 10 := by
  rw [← digitChar_mod]
  exact (digitChar_lt (Nat.mod_lt d (by decide))).2

theorem digits_ne_nil (n : Nat) : digits n ≠ [] := by
  rw [digits]
  split <;> simp

theorem isAsciiDigit_of_mem_digits {n : Nat} {c : Char} (h : c ∈ digits n) :
    isAsciiDigit c = true := by
  induction n using Nat.strongRecOn with
  | ind n ih =>
      rw [digits] at h
      split at h
      · rw [List.mem_singleton.mp h]
        exact isAsciiDigit_digitChar n
      · rcases List.mem_append.mp h with h | h
        · exact ih (n / 10) (by omega) h
        · rw [List.mem_singleton.mp h]
          exact isAsciiDigit_digitChar n

theorem digits_eq_cons (n : Nat) :
    ∃ c cs, digits n = c :: cs ∧ ∀ d ∈ c :: cs, isAsciiDigit d = true := by
  cases h : digits n with
  | nil => exact absurd h (digits_ne_nil n)
  | cons c cs =>
      refine ⟨c, cs, rfl, ?_⟩
      intro d hd
      rw [← h] at hd
      exact isAsciiDigit_of_mem_digits hd

theorem value_append_singleton (cs : List Char) (c : Char) :
    value (cs ++ [c]) = value cs * 10 + digitValue c := by
  simp only [value, digitValue, List.foldl_append, List.foldl_cons, List.foldl_nil]

theorem value_digits (n : Nat) : value (digits n) = n := by
  induction n using Nat.strongRecOn with
  | ind n ih =>
      rw [digits]
      split
      · have hv := digitValue_digitChar n
        simp only [digitValue] at hv
        simp only [value, List.foldl_cons, List.foldl_nil, hv]
        omega
      · rw [value_append_singleton, ih (n / 10) (by omega), digitValue_digitChar]
        omega

/-- Only zero is written with a leading zero. -/
theorem digits_eq_zero_cons {n : Nat} {cs : List Char} (h : digits n = '0' :: cs) :
    n = 0 ∧ cs = [] := by
  induction n using Nat.strongRecOn generalizing cs with
  | ind n ih =>
      rw [digits] at h
      split at h
      · have hd : digitChar n = '0' := (List.cons.inj h).1
        have hv := digitValue_digitChar n
        have hz : digitValue '0' = 0 := by decide
        rw [hd, hz] at hv
        exact ⟨by omega, (List.cons.inj h).2.symm⟩
      · cases hq : digits (n / 10) with
        | nil => exact absurd hq (digits_ne_nil (n / 10))
        | cons c rest =>
            rw [hq, List.cons_append] at h
            have hc : c = '0' := (List.cons.inj h).1
            rw [hc] at hq
            have hn := (ih (n / 10) (by omega) hq).1
            omega

/-! ## Numbers of a given width -/

theorem length_digits_le {width n : Nat} (h : n < Nat.pow 10 (width + 1)) :
    (digits n).length ≤ width + 1 := by
  induction width generalizing n with
  | zero =>
      rw [digits, if_pos (by simpa using h)]
      exact Nat.le_refl 1
  | succ width ih =>
      change n < Nat.pow 10 (width + 1) * 10 at h
      rw [digits]
      split
      · simp
      · have shorter := @ih (n / 10) (by omega)
        rw [List.length_append, List.length_singleton]
        omega

theorem length_padded {width n : Nat} (h : n < Nat.pow 10 (width + 1)) :
    (padded (width + 1) n).length = width + 1 := by
  have le := length_digits_le h
  rw [padded, List.length_append, List.length_replicate]
  omega

theorem isAsciiDigit_of_mem_padded {width n : Nat} {c : Char} (h : c ∈ padded width n) :
    isAsciiDigit c = true := by
  rcases List.mem_append.mp h with zero | digit
  · rw [List.eq_of_mem_replicate zero]
    rfl
  · exact isAsciiDigit_of_mem_digits digit

theorem value_zero_cons (cs : List Char) : value ('0' :: cs) = value cs := rfl

theorem value_padded (width n : Nat) : value (padded width n) = n := by
  unfold padded
  induction width - (digits n).length with
  | zero => exact value_digits n
  | succ count ih => rw [List.replicate_succ, List.cons_append, value_zero_cons, ih]

end FormRules.Decimal
