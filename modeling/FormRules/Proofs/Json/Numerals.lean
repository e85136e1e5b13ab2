import FormRules.Json.Printer
import FormRules.Proofs.Decimal
import FormRules.Proofs.Json.Scalars

/-!
# Reading numbers

A numeral has a sign, a whole part and perhaps a fraction and an exponent.  What
the reader finds in a text is the number of its numeral, provided that what
follows is not part of a number.  Every integer of 64 bits is read back in
integer form.
-/

namespace FormRules.Json.Decode

open Text

/-! ## Ends of numbers -/

/-- What follows a value inside a text, or the end of the text. -/
def EndsValue (rest : List Char) : Prop :=
  ∀ c ∈ rest.head?, isSpace c = true ∨ c = ',' ∨ c = ']' ∨ c = '}'

theorem endsValue_nil : EndsValue [] := by
  intro c hc
  cases hc

def EndsDigits (rest : List Char) : Prop :=
  ∀ c ∈ rest.head?, isAsciiDigit c = false

theorem EndsValue.endsDigits {rest : List Char} (h : EndsValue rest) : EndsDigits rest := by
  intro c hc
  rcases h c hc with hs | rfl | rfl | rfl
  · simp only [isSpace, Bool.or_eq_true, decide_eq_true_eq] at hs
    rcases hs with ((rfl | rfl) | rfl) | rfl <;> decide
  · decide
  · decide
  · decide

theorem EndsValue.not_point {rest : List Char} (h : EndsValue rest) : rest.head? ≠ some '.' := by
  intro hc
  have hp := h '.' hc
  revert hp
  decide

theorem EndsValue.not_exponent {rest : List Char} (h : EndsValue rest) :
    startsExponent rest.head? = false := by
  cases hs : startsExponent rest.head? with
  | false => rfl
  | true =>
      simp only [startsExponent, Bool.or_eq_true, decide_eq_true_eq] at hs
      rcases hs with hs | hs
      · have he := h 'e' hs
        revert he
        decide
      · have he := h 'E' hs
        revert he
        decide

/-! ## Numerals -/

def IsDigits (ds : List Char) : Prop :=
  ds ≠ [] ∧ ∀ c ∈ ds, isAsciiDigit c = true

structure Exponent where
  letter : Char
  sign : Option Char
  digits : List Char
  isLetter : letter = 'e' ∨ letter = 'E'
  isSign : ∀ c ∈ sign, c = '+' ∨ c = '-'
  isDigits : IsDigits digits

structure Numeral where
  negative : Bool
  whole : List Char
  fraction : Option (List Char)
  exponent : Option Exponent
  isWhole : IsDigits whole
  /-- Only zero starts with a zero. -/
  noZero : whole.head? = some '0' → whole = ['0']
  isFraction : ∀ ds ∈ fraction, IsDigits ds

/-! ### Texts -/

def Exponent.text (e : Exponent) : List Char :=
  e.letter :: (e.sign.toList ++ e.digits)

def exponentText : Option Exponent → List Char
  | none => []
  | some e => e.text

def fractionText (fraction : Option (List Char)) (exponent : Option Exponent) : List Char :=
  match fraction with
  | none => exponentText exponent
  | some ds => '.' :: (ds ++ exponentText exponent)

def Numeral.text (n : Numeral) : List Char :=
  (if n.negative then ['-'] else []) ++ (n.whole ++ fractionText n.fraction n.exponent)

/-! ### Numbers -/

/-- The number that an exponent scales, from the decimal exponent that it starts with.  One that does
not fit 32 bits makes a number zero or too large. -/
def Exponent.number? (e : Exponent) (negative : Bool) (significand : Nat) (start : Int) :
    Option Number :=
  let minus : Bool := e.sign = some '-'
  match exponentOverflow? 0 0 e.digits with
  | some _ =>
    if significand ≠ 0 && !minus then none else some (.float (Binary64.zero negative))
  | none =>
    let shift : Int := Decimal.value e.digits
    scaled? negative significand (if minus then start - shift else start + shift)

def exponentNumber? (exponent : Option Exponent) (negative : Bool) (significand : Nat)
    (start : Int) : Option Number :=
  match exponent with
  | none => scaled? negative significand start
  | some e => e.number? negative significand start

/-- The number that may have a fraction and an exponent, from the significand of its whole part and
the digits of it that did not fit. -/
def fractionNumber? (fraction : Option (List Char)) (exponent : Option Exponent)
    (negative : Bool) (significand dropped : Nat) : Option Number :=
  match fraction with
  | some ds =>
    let (significand, used) := absorb significand ds
    exponentNumber? exponent negative significand (dropped - used)
  | none =>
    if exponent.isNone ∧ dropped = 0 then some (wholeNumber negative significand)
    else exponentNumber? exponent negative significand dropped

def Numeral.number? (n : Numeral) : Option Number :=
  let (significand, used) := absorb 0 n.whole
  fractionNumber? n.fraction n.exponent n.negative significand (n.whole.length - used)

/-! ### Ends of numerals -/

structure EndsNumeral (fraction : Option (List Char)) (exponent : Option Exponent)
    (rest : List Char) : Prop where
  noDigit : EndsDigits rest
  noExponent : exponent = none → startsExponent rest.head? = false
  noPoint : fraction = none → exponent = none → rest.head? ≠ some '.'

theorem EndsValue.endsNumeral {rest : List Char} (h : EndsValue rest)
    (fraction : Option (List Char)) (exponent : Option Exponent) :
    EndsNumeral fraction exponent rest :=
  ⟨h.endsDigits, fun _ => h.not_exponent, fun _ _ => h.not_point⟩

/-! ## Reading numerals -/

theorem takeWhile_append_of_all {p : Char → Bool} {ds rest : List Char}
    (hd : ∀ c ∈ ds, p c = true) (hr : ∀ c ∈ rest.head?, p c = false) :
    (ds ++ rest).takeWhile p = ds ∧ (ds ++ rest).dropWhile p = rest := by
  rw [List.takeWhile_append_of_pos hd, List.dropWhile_append_of_pos hd]
  cases rest with
  | nil => simp
  | cons c rest =>
      have hc := hr c rfl
      simp [hc]

theorem reads_digitRun {ds rest : List Char} (hd : ∀ c ∈ ds, isAsciiDigit c = true)
    (hr : EndsDigits rest) : Reads digitRun (ds ++ rest) ds rest := by
  intro p
  obtain ⟨ht, hw⟩ := takeWhile_append_of_all hd hr
  refine ⟨⟨p.line, p.column + ds.length⟩, ?_⟩
  simp only [digitRun, ht, hw]

theorem Reads.get {β : Type} {next : Cursor → Decode β} {cs rest : List Char} {b : β}
    (h : ∀ p, Reads (next ⟨cs, p⟩) cs b rest) : Reads (MonadState.get >>= next) cs b rest :=
  fun p => h p p

theorem reads_floating {negative : Bool} {significand : Nat} {exponent : Int} {x : Number}
    (h : scaled? negative significand exponent = some x) (rest : List Char) :
    Reads (floating negative significand exponent) rest x rest := by
  unfold floating
  rw [h]
  exact Reads.pure x rest

variable {negative : Bool} {significand : Nat} {start : Int} {x : Number} {rest : List Char}

theorem IsDigits.eq_cons {ds : List Char} (hd : IsDigits ds) :
    ∃ c cs, ds = c :: cs ∧ isAsciiDigit c = true := by
  obtain ⟨c, cs, rfl⟩ := List.exists_cons_of_ne_nil hd.1
  exact ⟨c, cs, rfl, hd.2 c List.mem_cons_self⟩

theorem ne_of_isAsciiDigit {c d : Char} (hc : isAsciiDigit c = true)
    (hd : isAsciiDigit d = false) : c ≠ d := by
  rintro rfl
  rw [hc] at hd
  cases hd

theorem reads_exponentDigits {e : Exponent} (h : e.number? negative significand start = some x)
    (hr : EndsDigits rest) :
    Reads (exponentDigits negative significand start (e.sign = some '-')) (e.digits ++ rest) x
      rest := by
  obtain ⟨c, cs, hc, hd⟩ := e.isDigits.eq_cons
  unfold Exponent.number? at h
  unfold exponentDigits
  apply Reads.peek
  simp only [hc, List.cons_append, List.head?_cons, hd, Bool.not_true, Bool.false_eq_true, if_false]
  rw [← List.cons_append, ← hc]
  apply Reads.get
  intro p
  apply (reads_digitRun e.isDigits.2 hr).bind
  cases ho : exponentOverflow? 0 0 e.digits with
  | none =>
      simp only [ho] at h
      exact reads_floating h rest
  | some count =>
      simp only [ho] at h ⊢
      split at h
      · cases h
      · rename_i hz
        cases h
        rw [if_neg hz]
        exact Reads.pure _ rest

theorem reads_scaledNumber {e : Exponent} (h : e.number? negative significand start = some x)
    (hr : EndsDigits rest) :
    Reads (scaledNumber negative significand start) (e.text ++ rest) x rest := by
  have hread := reads_exponentDigits h hr
  unfold scaledNumber
  simp only [Exponent.text, List.cons_append, List.append_assoc]
  apply Reads.advance
  apply Reads.peek
  cases hs : e.sign with
  | none =>
      obtain ⟨c, cs, hc, hd⟩ := e.isDigits.eq_cons
      have hplus := ne_of_isAsciiDigit hd (by decide : isAsciiDigit '+' = false)
      have hminus := ne_of_isAsciiDigit hd (by decide : isAsciiDigit '-' = false)
      rw [hs, hc] at hread
      simpa [hc, hplus, hminus] using hread
  | some c =>
      rw [hs] at hread
      rcases e.isSign c hs with rfl | rfl
      · exact Reads.advance (by simpa using hread)
      · exact Reads.advance (by simpa using hread)

theorem Exponent.startsExponent_letter (e : Exponent) : startsExponent (some e.letter) = true := by
  rcases e.isLetter with h | h <;> rw [h] <;> decide

theorem endsDigits_exponentText (exponent : Option Exponent) (hr : EndsDigits rest) :
    EndsDigits (exponentText exponent ++ rest) := by
  cases exponent with
  | none => exact hr
  | some e =>
      intro c hc
      cases hc
      rcases e.isLetter with h | h <;> rw [h] <;> decide

theorem reads_fractionalNumber {ds : List Char} (hd : IsDigits ds) {exponent : Option Exponent}
    {dropped : Nat}
    (h : fractionNumber? (some ds) exponent negative significand dropped = some x)
    (hr : EndsNumeral (some ds) exponent rest) :
    Reads (fractionalNumber negative significand dropped)
      (fractionText (some ds) exponent ++ rest) x rest := by
  have hempty : ds.isEmpty = false := by
    simpa using hd.1
  unfold fractionNumber? at h
  unfold fractionalNumber fractionText
  simp only [List.cons_append, List.append_assoc]
  apply Reads.advance
  apply (reads_digitRun hd.2 (endsDigits_exponentText exponent hr.noDigit)).bind
  simp only [hempty, Bool.false_eq_true, if_false]
  apply Reads.peek
  cases exponent with
  | none =>
      simp only [exponentText, List.nil_append, hr.noExponent rfl, Bool.false_eq_true, if_false]
      exact reads_floating h rest
  | some e =>
      simp only [exponentText, Exponent.text, List.cons_append, List.head?_cons,
        e.startsExponent_letter, if_true]
      exact reads_scaledNumber h hr.noDigit

theorem reads_rest {fraction : Option (List Char)} (hf : ∀ ds ∈ fraction, IsDigits ds)
    {exponent : Option Exponent} {dropped : Nat}
    (h : fractionNumber? fraction exponent negative significand dropped = some x)
    (hr : EndsNumeral fraction exponent rest) :
    Reads (numberBody.rest negative significand dropped) (fractionText fraction exponent ++ rest) x
      rest := by
  unfold numberBody.rest
  apply Reads.peek
  cases fraction with
  | some ds =>
      have hread := reads_fractionalNumber (hf ds rfl) h hr
      simpa [fractionText] using hread
  | none =>
      cases exponent with
      | some e =>
          have hpoint : e.letter ≠ '.' := by
            rcases e.isLetter with h | h <;> rw [h] <;> decide
          have hread := reads_scaledNumber (e := e) h hr.noDigit
          simpa [fractionText, exponentText, Exponent.text, hpoint, e.startsExponent_letter]
            using hread
      | none =>
          have hnext : fractionText none none ++ rest = rest := rfl
          rw [hnext, if_neg (hr.noPoint rfl rfl), if_neg (by rw [hr.noExponent rfl]; decide)]
          unfold fractionNumber? at h
          by_cases hz : dropped = 0
          · rw [if_pos ⟨rfl, hz⟩] at h
            cases h
            rw [if_pos hz]
            exact Reads.pure _ rest
          · rw [if_neg fun hall => hz hall.2] at h
            rw [if_neg hz]
            exact reads_floating h rest

theorem endsDigits_fractionText (fraction : Option (List Char)) (exponent : Option Exponent)
    (hr : EndsDigits rest) : EndsDigits (fractionText fraction exponent ++ rest) := by
  cases fraction with
  | none => exact endsDigits_exponentText exponent hr
  | some ds =>
      intro c hc
      cases hc
      decide

theorem reads_numberBody (n : Numeral) (h : n.number? = some x)
    (hr : EndsNumeral n.fraction n.exponent rest) :
    Reads (numberBody n.negative) (n.whole ++ (fractionText n.fraction n.exponent ++ rest)) x
      rest := by
  have hends := endsDigits_fractionText n.fraction n.exponent hr.noDigit
  obtain ⟨c, cs, hw, hd⟩ := n.isWhole.eq_cons
  unfold Numeral.number? at h
  unfold numberBody
  apply Reads.peek
  simp only [hw, List.cons_append, List.head?_cons, hd, Bool.not_true, Bool.false_eq_true, if_false]
  by_cases hz : c = '0'
  · have hzero : n.whole = ['0'] := n.noZero (by rw [hw, hz, List.head?_cons])
    obtain ⟨rfl, rfl⟩ := List.cons.inj (hw.symm.trans hzero)
    have habsorb : absorb 0 ['0'] = (0, 1) := by decide
    rw [hzero, habsorb] at h
    have hread := reads_rest n.isFraction h hr
    rw [if_pos rfl]
    apply Reads.advance
    apply Reads.peek
    rw [List.nil_append]
    cases hh : (fractionText n.fraction n.exponent ++ rest).head? with
    | none => exact hread
    | some d =>
        simp only [hends d hh, Bool.false_eq_true, if_false]
        exact hread
  · rw [if_neg hz, ← List.cons_append, ← hw]
    apply (reads_digitRun n.isWhole.2 hends).bind
    exact reads_rest n.isFraction h hr

theorem Numeral.reads (n : Numeral) (h : n.number? = some x)
    (hr : EndsNumeral n.fraction n.exponent rest) :
    Reads anyNumber (n.text ++ rest) x rest := by
  have hread := reads_numberBody n h hr
  unfold anyNumber Numeral.text
  cases hs : n.negative with
  | true =>
      rw [hs] at hread
      simp only [if_true, List.cons_append, List.nil_append, List.append_assoc]
      apply Reads.peek
      rw [List.head?_cons, if_pos rfl]
      exact Reads.advance hread
  | false =>
      obtain ⟨c, cs, hw, hd⟩ := n.isWhole.eq_cons
      have hminus : some c ≠ some '-' := by
        simpa using ne_of_isAsciiDigit hd (by decide : isAsciiDigit '-' = false)
      rw [hs, hw, List.cons_append] at hread
      simp only [hw, Bool.false_eq_true, if_false, List.nil_append, List.cons_append,
        List.append_assoc]
      apply Reads.peek
      rw [List.head?_cons, if_neg hminus]
      exact hread

/-! ## Integers -/

/-- More digits never make a significand smaller. -/
theorem le_foldl_digits (n : Nat) (ds : List Char) :
    n ≤ ds.foldl (fun n d => n * 10 + digitValue d) n := by
  induction ds generalizing n with
  | nil => exact Nat.le_refl n
  | cons d ds ih =>
      have h := ih (n * 10 + digitValue d)
      rw [List.foldl_cons]
      omega

/-- Digits whose value fits are absorbed to the last. -/
theorem absorb_eq {significand : Nat} {ds : List Char}
    (h : ds.foldl (fun n d => n * 10 + digitValue d) significand < 18446744073709551616) :
    absorb significand ds =
      (ds.foldl (fun n d => n * 10 + digitValue d) significand, ds.length) := by
  induction ds generalizing significand with
  | nil => rfl
  | cons d ds ih =>
      rw [List.foldl_cons] at h
      have hm := le_foldl_digits (significand * 10 + digitValue d) ds
      have ha := ih h
      simp only [absorb]
      rw [if_neg (by omega), ha]
      rfl

theorem absorb_digits {n : Nat} (h : n < 18446744073709551616) :
    absorb 0 (Decimal.digits n) = (n, (Decimal.digits n).length) := by
  have hv : (Decimal.digits n).foldl (fun n d => n * 10 + digitValue d) 0 = n :=
    Decimal.value_digits n
  rw [absorb_eq (by rw [hv]; exact h), hv]

/-- A whole number other than minus zero that fits stays an integer. -/
theorem wholeNumber_eq {negative : Bool} {n : Nat} {i : Int}
    (hi : -9223372036854775808 ≤ i ∧ i < 18446744073709551616)
    (hn : (if negative then -(n : Int) else n) = i) (hz : ¬ (negative && n = 0) = true) :
    wholeNumber negative n = .int i hi := by
  have ho : Number.ofInt? i = some (.int i hi) := dif_pos hi
  unfold wholeNumber
  rw [hn]
  simp only
  rw [if_neg hz, ho]

def integerNumeral (i : Int) : Numeral where
  negative := i < 0
  whole := Decimal.digits i.natAbs
  fraction := none
  exponent := none
  isWhole := ⟨Decimal.digits_ne_nil _, fun _ hc => Decimal.isAsciiDigit_of_mem_digits hc⟩
  noZero := by
    intro h
    obtain ⟨cs, hd⟩ := List.head?_eq_some_iff.1 h
    rw [hd, (Decimal.digits_eq_zero_cons hd).2]
  isFraction := by simp

theorem text_integerNumeral (i : Int) : (integerNumeral i).text = Decimal.integer i := by
  unfold Numeral.text Decimal.integer integerNumeral
  by_cases hneg : i < 0 <;> simp [hneg, fractionText, exponentText]

theorem number?_integerNumeral {i : Int}
    (hi : -9223372036854775808 ≤ i ∧ i < 18446744073709551616) :
    (integerNumeral i).number? = some (.int i hi) := by
  have hw : wholeNumber (i < 0) i.natAbs = .int i hi := by
    apply wholeNumber_eq hi
    · by_cases hneg : i < 0
      · rw [if_pos (decide_eq_true hneg)]
        omega
      · rw [if_neg (by simpa using hneg)]
        omega
    · simp only [Bool.and_eq_true, decide_eq_true_eq]
      omega
  unfold Numeral.number? integerNumeral
  simp only [absorb_digits (show i.natAbs < 18446744073709551616 by omega), Nat.sub_self]
  unfold fractionNumber?
  rw [if_pos ⟨rfl, rfl⟩, hw]

end FormRules.Json.Decode
