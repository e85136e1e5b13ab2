import FormRules.Calendar.Reading
import FormRules.Proofs.CivilDates
import FormRules.Proofs.Literal
import Mathlib.Data.List.TakeWhile

/-!
# Written dates

A date between the years 0 and 9999 is written with ten characters, and reading
them gives the start of that date.  No other format of date texts accepts them.
-/

namespace FormRules

open Text

namespace Calendar

variable {rest : List Char}

/-! ## Numbers -/

theorem digits_padded {least width n : Nat} (least_le : least ≤ width + 1)
    (fits : n < Nat.pow 10 (width + 1)) :
    digits least (width + 1) (Decimal.padded (width + 1) n ++ rest) = some (n, rest) := by
  have length := Decimal.length_padded fits
  have front : ((Decimal.padded (width + 1) n ++ rest).take (width + 1)).takeWhile isAsciiDigit =
      Decimal.padded (width + 1) n := by
    rw [List.take_left' length, List.takeWhile_eq_self_iff]
    exact fun c mem => Decimal.isAsciiDigit_of_mem_padded mem
  simp only [digits, front, length]
  rw [if_neg (by omega), Decimal.value_padded, List.drop_left' length]

theorem padded_append (width n : Nat) (rest : List Char) :
    ∃ c cs, Decimal.padded width n ++ rest = c :: cs ∧ isAsciiDigit c = true := by
  have digits : ∀ c ∈ Decimal.padded width n, isAsciiDigit c = true :=
    fun c mem => Decimal.isAsciiDigit_of_mem_padded mem
  cases front : Decimal.padded width n with
  | nil => exact absurd (List.append_eq_nil_iff.mp front).2 (Decimal.digits_ne_nil n)
  | cons c cs =>
      rw [front] at digits
      exact ⟨c, cs ++ rest, rfl, digits c List.mem_cons_self⟩

theorem trimStart_padded (width n : Nat) (rest : List Char) :
    trimStart (Decimal.padded width n ++ rest) = Decimal.padded width n ++ rest := by
  obtain ⟨c, cs, front, digit⟩ := padded_append width n rest
  apply trimStart_of_head?
  rw [front]
  exact isBlank_of_isAsciiDigit digit

theorem bounded_padded {least lo hi n : Nat} (least_le : least ≤ 2) (within : lo ≤ n ∧ n ≤ hi)
    (fits : n < 100) :
    bounded lo hi (digits least 2) (Decimal.padded 2 n ++ rest) = some (n, rest) := by
  have read : digits least 2 (Decimal.padded 2 n ++ rest) = some (n, rest) :=
    digits_padded least_le fits
  simp only [bounded, read, Option.bind_eq_bind, Option.bind_some, if_pos within]

theorem number_padded {lo hi n : Nat} (within : lo ≤ n ∧ n ≤ hi) (fits : n < 100) :
    number lo hi (Decimal.padded 2 n ++ rest) = some (n, rest) := by
  rw [number, trimStart_padded]
  exact bounded_padded (by decide) within fits

theorem year_padded {n : Nat} (fits : n < 10000) :
    year (Decimal.padded 4 n ++ rest) = some ((n : Int), rest) := by
  have read : digits 1 4 (Decimal.padded 4 n ++ rest) = some (n, rest) :=
    digits_padded (by decide) fits
  obtain ⟨c, cs, front, digit⟩ := padded_append 4 n rest
  rw [year, trimStart_padded]
  rw [front] at read ⊢
  split
  · next minus => simp_all [isAsciiDigit]
  · next plus => simp_all [isAsciiDigit]
  · rw [read]
    rfl

/-! ## Dates -/

variable {d : Date}

theorem text_append (four : d.FourDigits) (rest : List Char) :
    d.text ++ rest = Decimal.padded 4 d.civil.year.toNat ++ '-' ::
      (Decimal.padded 2 d.civil.month ++ '-' :: (Decimal.padded 2 d.civil.day ++ rest)) := by
  unfold Date.FourDigits at four
  simp [Date.text, Date.yearText, four]

theorem text_eq (four : d.FourDigits) :
    d.text = Decimal.padded 4 d.civil.year.toNat ++ '-' ::
      (Decimal.padded 2 d.civil.month ++ '-' :: (Decimal.padded 2 d.civil.day ++ [])) := by
  have written := text_append four []
  rwa [List.append_nil] at written

theorem text_eq_cons (four : d.FourDigits) :
    ∃ c cs, d.text = c :: cs ∧ isAsciiDigit c = true := by
  rw [text_eq four]
  exact padded_append 4 _ _

theorem dateFront_text (four : d.FourDigits) : dateFront (d.text ++ rest) = some (d, rest) := by
  obtain ⟨first, last⟩ := four
  obtain ⟨month_pos, month_le, day_pos, day_le⟩ := d.civil_ranges
  have year : year (Decimal.padded 4 d.civil.year.toNat ++ '-' ::
      (Decimal.padded 2 d.civil.month ++ '-' :: (Decimal.padded 2 d.civil.day ++ rest))) =
      some (d.civil.year,
        '-' :: (Decimal.padded 2 d.civil.month ++ '-' ::
          (Decimal.padded 2 d.civil.day ++ rest))) := by
    rw [year_padded (by omega), Int.toNat_of_nonneg first]
  have month : number 1 12 (Decimal.padded 2 d.civil.month ++ '-' ::
      (Decimal.padded 2 d.civil.day ++ rest)) =
      some (d.civil.month, '-' :: (Decimal.padded 2 d.civil.day ++ rest)) :=
    number_padded ⟨month_pos, month_le⟩ (by omega)
  have day : number 1 31 (Decimal.padded 2 d.civil.day ++ rest) = some (d.civil.day, rest) :=
    number_padded ⟨day_pos, day_le⟩ (by omega)
  simp only [text_append ⟨first, last⟩, dateFront, year, char, month, day, if_true,
    d.ofCivil?_civil, Option.bind_eq_bind, Option.bind_some]

theorem dateFront_text_nil (four : d.FourDigits) : dateFront d.text = some (d, []) := by
  have front : dateFront (d.text ++ []) = some (d, []) := dateFront_text four
  rwa [List.append_nil] at front

theorem plain?_text (four : d.FourDigits) : plain? d.text = some d := by
  have front := dateFront_text_nil four
  simp [plain?, front]

theorem layout?_text (four : d.FourDigits) (separator : Separator) (seconds fraction : Bool) :
    layout? separator seconds fraction d.text = none := by
  unfold layout?
  rw [dateFront_text_nil four]
  cases separator with
  | blanks => rfl
  | letter => rfl

theorem internet?_text (four : d.FourDigits) : internet? d.text = none := by
  obtain ⟨first, last⟩ := four
  obtain ⟨month_pos, month_le, day_pos, day_le⟩ := d.civil_ranges
  have year : digits 4 4 d.text = some (d.civil.year.toNat, '-' ::
      (Decimal.padded 2 d.civil.month ++ '-' :: (Decimal.padded 2 d.civil.day ++ []))) := by
    have fits : d.civil.year.toNat < 10000 := by omega
    rw [text_eq ⟨first, last⟩]
    exact digits_padded (by decide) fits
  have month : bounded 1 12 (digits 2 2) (Decimal.padded 2 d.civil.month ++ '-' ::
      (Decimal.padded 2 d.civil.day ++ [])) =
      some (d.civil.month, '-' :: (Decimal.padded 2 d.civil.day ++ [])) :=
    bounded_padded (by decide) ⟨month_pos, month_le⟩ (by omega)
  have day : bounded 1 31 (digits 2 2) (Decimal.padded 2 d.civil.day ++ []) =
      some (d.civil.day, []) :=
    bounded_padded (by decide) ⟨day_pos, day_le⟩ (by omega)
  unfold internet?
  rw [year]
  change (bounded 1 12 (digits 2 2) _).bind _ = none
  rw [month]
  change (bounded 1 31 (digits 2 2) _).bind _ = none
  rw [day]
  rfl

theorem isTrimmed_text (four : d.FourDigits) : IsTrimmed d.text := by
  apply isTrimmed_of_no_blank
  intro c mem
  rw [text_eq four] at mem
  simp only [List.mem_append, List.mem_cons, List.not_mem_nil, or_false] at mem
  rcases mem with digit | rfl | digit | rfl | digit
  · exact isBlank_of_isAsciiDigit (Decimal.isAsciiDigit_of_mem_padded digit)
  · rfl
  · exact isBlank_of_isAsciiDigit (Decimal.isAsciiDigit_of_mem_padded digit)
  · rfl
  · exact isBlank_of_isAsciiDigit (Decimal.isAsciiDigit_of_mem_padded digit)

theorem parse?_text (four : d.FourDigits) :
    parse? (String.ofList d.text) = some (.midnight d) := by
  have trimmed := trim_of_isTrimmed (isTrimmed_text four)
  simp only [parse?, String.toList_ofList, trimmed, internet?_text four, layout?_text four,
    plain?_text four]
  rfl

end Calendar

end FormRules
