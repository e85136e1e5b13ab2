import Mathlib.Data.List.TakeWhile
import FormRules.Proofs.Json.Yields

/-!
# What the reader accepts

Where the reader finds a value, the text starts with a text of that value, and
what is left behind it is not looked at: only a number can be cut short by it.
-/

namespace FormRules.Json.Decode

open Text

variable {α β : Type}

/-! ## Numbers -/

section Numbers

variable {cs rest : List Char} {negative : Bool} {significand : Nat} {start : Int} {x : Number}

theorem yields_digitRun {ds : List Char} (h : Yields digitRun cs ds rest) :
    cs = ds ++ rest ∧ (∀ c ∈ ds, isAsciiDigit c = true) ∧ EndsDigits rest := by
  obtain ⟨p, q, read⟩ := h
  cases read
  refine ⟨List.takeWhile_append_dropWhile.symm, fun c hc => List.mem_takeWhile_imp hc, ?_⟩
  intro c first
  have stop := List.head?_dropWhile_not isAsciiDigit cs
  rw [Option.mem_def.1 first] at stop
  exact stop

theorem yields_digitRun_cons {c : Char} {ds : List Char} (digit : isAsciiDigit c = true)
    (h : Yields digitRun (c :: cs) ds rest) :
    ds.head? = some c ∧ IsDigits ds ∧ c :: cs = ds ++ rest ∧ EndsDigits rest := by
  obtain ⟨parts, allDigits, stop⟩ := yields_digitRun h
  cases ds with
  | nil =>
      have first := stop c (by rw [← List.nil_append rest, ← parts]; rfl)
      rw [digit] at first
      cases first
  | cons d ds =>
      obtain ⟨rfl, -⟩ := List.cons.inj parts
      exact ⟨rfl, ⟨List.cons_ne_nil _ _, allDigits⟩, parts, stop⟩

theorem yields_floating {exponent : Int}
    (h : Yields (floating negative significand exponent) cs x rest) :
    scaled? negative significand exponent = some x ∧ rest = cs := by
  unfold floating at h
  cases found : scaled? negative significand exponent with
  | none =>
      rw [found] at h
      exact absurd h (not_yields_fail _)
  | some y =>
      rw [found] at h
      obtain ⟨rfl, rfl⟩ := yields_pure h
      exact ⟨rfl, rfl⟩

theorem not_yields_failBehind (p : Position) (count : Nat) (fault : Fault) :
    ¬Yields (failBehind p count fault) cs x rest := by
  rintro ⟨p, q, ⟨⟩⟩

theorem Yields.of_get {next : Cursor → Decode β} {b : β}
    (h : Yields (MonadState.get >>= next) cs b rest) : ∃ s, Yields (next s) cs b rest := by
  obtain ⟨p, q, read⟩ := h
  exact ⟨⟨cs, p⟩, p, q, read⟩

theorem yields_exponentDigits {minus : Bool}
    (h : Yields (exponentDigits negative significand start minus) cs x rest) :
    ∃ ds, IsDigits ds ∧ cs = ds ++ rest ∧ EndsDigits rest ∧
      ∀ e : Exponent, e.digits = ds → decide (e.sign = some '-') = minus →
        e.number? negative significand start = some x := by
  unfold exponentDigits at h
  obtain ⟨c, cs, rfl, look⟩ := h.of_somePeek fun _ => not_yields_fail _
  dsimp only at look
  split at look
  · exact absurd look (not_yields_failAhead _)
  · next digit =>
    obtain ⟨before, run⟩ := look.of_get
    obtain ⟨ds, mid, digits, later⟩ := run.of_bind
    obtain ⟨-, isDigits, parts, stop⟩ := yields_digitRun_cons (by simpa using digit) digits
    have number : rest = mid ∧ ∀ e : Exponent, e.digits = ds →
        decide (e.sign = some '-') = minus → e.number? negative significand start = some x := by
      cases overflow : exponentOverflow? 0 0 ds with
      | none =>
          simp only [overflow] at later
          obtain ⟨found, rfl⟩ := yields_floating later
          refine ⟨rfl, fun e written sign => ?_⟩
          simpa only [Exponent.number?, written, overflow, sign] using found
      | some count =>
          simp only [overflow] at later
          split at later
          · exact absurd later (not_yields_failBehind _ _ _)
          · next small =>
            obtain ⟨rfl, rfl⟩ := yields_pure later
            refine ⟨rfl, fun e written sign => ?_⟩
            simp only [Exponent.number?, written, overflow, sign]
            rw [if_neg small]
    obtain ⟨rfl, found⟩ := number
    exact ⟨ds, isDigits, parts, stop, found⟩

theorem yields_scaledNumber {c : Char} (letter : startsExponent (some c) = true)
    (h : Yields (scaledNumber negative significand start) (c :: cs) x rest) :
    ∃ e : Exponent, c :: cs = e.text ++ rest ∧ EndsDigits rest ∧
      e.number? negative significand start = some x := by
  have isLetter : c = 'e' ∨ c = 'E' := by
    simpa [startsExponent] using letter
  unfold scaledNumber at h
  have look := h.of_advance.of_peek
  split at look
  · next signed =>
    simp only [Bool.or_eq_true, decide_eq_true_eq] at signed
    obtain ⟨sign, cs, rfl⟩ : ∃ sign tail, cs = sign :: tail := by
      cases cs with
      | nil => simp at signed
      | cons sign tail => exact ⟨sign, tail, rfl⟩
    obtain ⟨ds, isDigits, rfl, stop, number⟩ := yields_exponentDigits look.of_advance
    have isSign : sign = '+' ∨ sign = '-' := by simpa using signed
    let e : Exponent := ⟨c, some sign, ds, isLetter, by simpa using isSign, isDigits⟩
    exact ⟨e, rfl, stop, number e rfl (by simp [e])⟩
  · next unsigned =>
    simp only [Bool.or_eq_true, decide_eq_true_eq, not_or] at unsigned
    obtain ⟨ds, isDigits, rfl, stop, number⟩ := yields_exponentDigits look
    let e : Exponent := ⟨c, none, ds, isLetter, by simp, isDigits⟩
    have sign : decide (e.sign = some '-') = decide ((ds ++ rest).head? = some '-') := by
      rw [decide_eq_false unsigned.2]
      rfl
    exact ⟨e, rfl, stop, number e rfl sign⟩

theorem yields_fractionalNumber {dropped : Nat}
    (h : Yields (fractionalNumber negative significand dropped) ('.' :: cs) x rest) :
    ∃ ds exponent, IsDigits ds ∧ '.' :: cs = fractionText (some ds) exponent ++ rest ∧
      fractionNumber? (some ds) exponent negative significand dropped = some x ∧
      EndsNumeral (some ds) exponent rest := by
  unfold fractionalNumber at h
  obtain ⟨ds, mid, digits, later⟩ := h.of_advance.of_bind
  obtain ⟨rfl, allDigits, stop⟩ := yields_digitRun digits
  split at later
  · have look := later.of_peek
    split at look
    · exact absurd look (not_yields_failAhead _)
    · exact absurd look (not_yields_failAhead _)
  · next nonempty =>
    have isDigits : IsDigits ds := ⟨by simpa using nonempty, allDigits⟩
    have look := later.of_peek
    split at look
    · next letter =>
      obtain ⟨c, tail, rfl⟩ : ∃ c tail, mid = c :: tail := by
        cases mid with
        | nil => simp [startsExponent] at letter
        | cons c tail => exact ⟨c, tail, rfl⟩
      obtain ⟨e, written, last, number⟩ := yields_scaledNumber letter look
      refine ⟨ds, some e, isDigits, by simp [fractionText, exponentText, written], number, ?_⟩
      exact ⟨last, by simp, by simp⟩
    · next noLetter =>
      obtain ⟨found, rfl⟩ := yields_floating look
      refine ⟨ds, none, isDigits, by simp [fractionText, exponentText], found, ?_⟩
      exact ⟨stop, fun _ => by simpa using noLetter, by simp⟩

theorem yields_rest {dropped : Nat} (stop : EndsDigits cs)
    (h : Yields (numberBody.rest negative significand dropped) cs x rest) :
    ∃ fraction exponent, (∀ ds ∈ fraction, IsDigits ds) ∧
      cs = fractionText fraction exponent ++ rest ∧
      fractionNumber? fraction exponent negative significand dropped = some x ∧
      EndsNumeral fraction exponent rest := by
  unfold numberBody.rest at h
  have look := h.of_peek
  split at look
  · next point =>
    obtain ⟨cs, rfl⟩ := List.head?_eq_some_iff.1 point
    obtain ⟨ds, exponent, isDigits, written, number, last⟩ := yields_fractionalNumber look
    exact ⟨some ds, exponent, by simpa using isDigits, written, number, last⟩
  · next noPoint =>
    split at look
    · next letter =>
      obtain ⟨c, tail, rfl⟩ : ∃ c tail, cs = c :: tail := by
        cases cs with
        | nil => simp [startsExponent] at letter
        | cons c tail => exact ⟨c, tail, rfl⟩
      obtain ⟨e, written, last, number⟩ := yields_scaledNumber letter look
      refine ⟨none, some e, by simp, written, ?_, ?_⟩
      · simpa [fractionNumber?, exponentNumber?] using number
      · exact ⟨last, by simp, by simp⟩
    · next noLetter =>
      have ends : EndsNumeral none none cs :=
        ⟨stop, fun _ => by simpa using noLetter, fun _ _ => noPoint⟩
      split at look
      · next whole =>
        obtain ⟨rfl, rfl⟩ := yields_pure look
        exact ⟨none, none, by simp, rfl, by simp [fractionNumber?, whole], ends⟩
      · next long =>
        obtain ⟨found, rfl⟩ := yields_floating look
        refine ⟨none, none, by simp, rfl, ?_, ends⟩
        simpa [fractionNumber?, exponentNumber?, long] using found

theorem yields_numberBody (h : Yields (numberBody negative) cs x rest) :
    ∃ n : Numeral, n.negative = negative ∧
      cs = n.whole ++ (fractionText n.fraction n.exponent ++ rest) ∧ n.number? = some x ∧
      EndsNumeral n.fraction n.exponent rest := by
  unfold numberBody at h
  obtain ⟨c, cs, rfl, look⟩ := h.of_somePeek fun _ => not_yields_fail _
  dsimp only at look
  split at look
  · exact absurd look (not_yields_failAhead _)
  · next digit =>
    split at look
    · next zero =>
      have next := look.of_advance.of_peek
      have body : EndsDigits cs ∧ Yields (numberBody.rest negative 0 0) cs x rest := by
        cases cs with
        | nil => exact ⟨by simp [EndsDigits], next⟩
        | cons d cs =>
            simp only [List.head?_cons] at next
            split at next
            · obtain ⟨_, _, failed, _⟩ := next.of_bind
              exact absurd failed (not_yields_failAhead _)
            · next noDigit => exact ⟨by simpa [EndsDigits] using noDigit, next⟩
      obtain ⟨fraction, exponent, isFraction, rfl, number, last⟩ := yields_rest body.1 body.2
      have isZero : IsDigits ['0'] := ⟨List.cons_ne_nil _ _, by simp; decide⟩
      let n : Numeral := ⟨negative, ['0'], fraction, exponent, isZero, fun _ => rfl, isFraction⟩
      exact ⟨n, rfl, by rw [zero]; rfl, number, last⟩
    · next nonzero =>
      obtain ⟨ds, mid, digits, later⟩ := look.of_bind
      obtain ⟨first, isDigits, parts, stop⟩ := yields_digitRun_cons (by simpa using digit) digits
      obtain ⟨fraction, exponent, isFraction, rfl, number, last⟩ := yields_rest stop later
      have noZero : ds.head? = some '0' → ds = ['0'] := by
        rw [first, Option.some.injEq]
        exact fun zero => absurd zero nonzero
      let n : Numeral := ⟨negative, ds, fraction, exponent, isDigits, noZero, isFraction⟩
      exact ⟨n, rfl, parts, number, last⟩

/-- A number is read from a numeral, and nothing that is left would be a part of it. -/
theorem yields_anyNumber (h : Yields anyNumber cs x rest) :
    ∃ n : Numeral, cs = n.text ++ rest ∧ n.number? = some x ∧
      EndsNumeral n.fraction n.exponent rest := by
  unfold anyNumber at h
  have look := h.of_peek
  split at look
  · next minus =>
    obtain ⟨cs, rfl⟩ := List.head?_eq_some_iff.1 minus
    obtain ⟨n, negative, rfl, number, last⟩ := yields_numberBody look.of_advance
    exact ⟨n, by simp [Numeral.text, negative], number, last⟩
  · obtain ⟨n, positive, rfl, number, last⟩ := yields_numberBody look
    exact ⟨n, by simp [Numeral.text, positive], number, last⟩

end Numbers

/-! ## Brackets -/

section Brackets

variable {cs rest : List Char} {a : α}

theorem yields_closeArray (h : Yields closeArray cs () rest) :
    ∃ gap, cs = gap ++ ']' :: rest ∧ Blank gap := by
  unfold closeArray at h
  obtain ⟨gap, c, mid, rfl, blank, -, look⟩ := h.of_someToken fun _ => not_yields_failAhead _
  dsimp only at look
  split at look
  · next bracket =>
    rw [bracket, yields_advance look]
    exact ⟨gap, rfl, blank⟩
  · split at look
    · obtain ⟨_, tail, -, -, -, later⟩ := look.of_advance.of_token
      split at later
      · exact absurd later (not_yields_failAhead _)
      · exact absurd later (not_yields_failAhead _)
    · exact absurd look (not_yields_failAhead _)

theorem yields_closeObject (h : Yields closeObject cs () rest) :
    ∃ gap, cs = gap ++ '}' :: rest ∧ Blank gap := by
  unfold closeObject at h
  obtain ⟨gap, c, mid, rfl, blank, -, look⟩ := h.of_someToken fun _ => not_yields_failAhead _
  dsimp only at look
  split at look
  · next brace =>
    rw [brace, yields_advance look]
    exact ⟨gap, rfl, blank⟩
  · split at look
    · exact absurd look (not_yields_failAhead _)
    · exact absurd look (not_yields_failAhead _)

variable {depth : Nat} {body : Decode α}

theorem yields_inArray {c : Char} (h : Yields (inArray depth body) (c :: cs) a rest) :
    depth ≠ 0 ∧ ∃ mid, Yields body cs a mid ∧ (mid.head? = some ']' → mid = ']' :: rest) := by
  unfold inArray at h
  split at h
  · exact absurd h (not_yields_failAhead _)
  · next level =>
    obtain ⟨mid, read, close⟩ := h.of_advance.of_closing
    obtain ⟨gap, rfl, blank⟩ := yields_closeArray close
    refine ⟨level, _, read, fun bracket => ?_⟩
    rw [blank.eq_nil (by decide) bracket, List.nil_append]

theorem yields_inObject {c : Char} (h : Yields (inObject depth body) (c :: cs) a rest) :
    depth ≠ 0 ∧ ∃ mid, Yields body cs a mid ∧ (mid.head? = some '}' → mid = '}' :: rest) := by
  unfold inObject at h
  split at h
  · exact absurd h (not_yields_failAhead _)
  · next level =>
    obtain ⟨mid, read, close⟩ := h.of_advance.of_closing
    obtain ⟨gap, rfl, blank⟩ := yields_closeObject close
    refine ⟨level, _, read, fun brace => ?_⟩
    rw [blank.eq_nil (by decide) brace, List.nil_append]

end Brackets

/-! ## Items -/

section Items

variable {cs rest : List Char}

theorem yields_nextItem_none {first : Bool} (h : Yields (nextItem first) cs false rest) :
    ∃ gap, cs = gap ++ rest ∧ Blank gap ∧ rest.head? = some ']' := by
  unfold nextItem at h
  obtain ⟨gap, c, mid, rfl, blank, -, look⟩ := h.of_someToken fun _ => not_yields_failAhead _
  dsimp only at look
  split at look
  · next bracket =>
    obtain ⟨-, rfl⟩ := yields_pure look
    exact ⟨gap, rfl, blank, by rw [bracket]; rfl⟩
  · split at look
    · cases (yields_pure look).1
    · split at look
      · obtain ⟨_, tail, -, -, -, later⟩ := look.of_advance.of_token
        split at later
        · exact absurd later (not_yields_failAhead _)
        · split at later
          · exact absurd later (not_yields_failAhead _)
          · cases (yields_pure later).1
      · exact absurd look (not_yields_failAhead _)

theorem yields_nextItem_first (h : Yields (nextItem true) cs true rest) :
    ∃ gap, cs = gap ++ rest ∧ Blank gap := by
  unfold nextItem at h
  obtain ⟨gap, c, mid, rfl, blank, -, look⟩ := h.of_someToken fun _ => not_yields_failAhead _
  dsimp only at look
  split at look
  · cases (yields_pure look).1
  · simp only [if_true] at look
    obtain ⟨-, rfl⟩ := yields_pure look
    exact ⟨gap, rfl, blank⟩

theorem yields_nextItem_later (h : Yields (nextItem false) cs true rest) :
    ∃ before gap, cs = before ++ ',' :: (gap ++ rest) ∧ Blank before ∧ Blank gap := by
  unfold nextItem at h
  obtain ⟨before, c, mid, rfl, blank, -, look⟩ := h.of_someToken fun _ => not_yields_failAhead _
  dsimp only at look
  split at look
  · cases (yields_pure look).1
  · simp only [Bool.false_eq_true, if_false] at look
    split at look
    · next comma =>
      obtain ⟨gap, tail, rfl, blank', -, later⟩ := look.of_advance.of_token
      split at later
      · exact absurd later (not_yields_failAhead _)
      · split at later
        · exact absurd later (not_yields_failAhead _)
        · obtain ⟨-, rfl⟩ := yields_pure later
          exact ⟨before, gap, by rw [comma], blank, blank'⟩
    · exact absurd look (not_yields_failAhead _)

variable {item : Nat → Decode α} {part : List Char → α → Prop}

def YieldsPart (step : Decode α) (part : List Char → α → Prop) : Prop :=
  ∀ cs a rest, Yields step cs a rest → ∃ gap t, cs = gap ++ (t ++ rest) ∧ Blank gap ∧ part t a

/-- There are no more items, or there is one and others behind it. -/
theorem yields_items (hp : ∀ i, YieldsPart (item i) part) {fuel index : Nat} {as : List α}
    (h : Yields (items item (fuel + 1) index) cs as rest) :
    (as = [] ∧ ∃ gap, cs = gap ++ rest ∧ Blank gap ∧ rest.head? = some ']') ∨
      ∃ a others gap t tail, as = a :: others ∧ Blank gap ∧ part t a ∧
        Yields (nextItem (index = 0)) cs true (gap ++ (t ++ tail)) ∧
        Yields (items item fuel (index + 1)) tail others rest := by
  unfold items at h
  obtain ⟨more, mid, next, later⟩ := h.of_bind
  cases more with
  | false =>
      obtain ⟨rfl, rfl⟩ := yields_pure later
      exact .inl ⟨rfl, yields_nextItem_none next⟩
  | true =>
      obtain ⟨a, tail, read, behind⟩ := later.of_bind
      obtain ⟨others, left, moreItems, last⟩ := behind.of_bind
      obtain ⟨gap, t, rfl, blank, written⟩ := hp index _ _ _ read.of_within
      obtain ⟨rfl, rfl⟩ := yields_pure last
      exact .inr ⟨a, others, gap, t, tail, rfl, blank, written, next, moreItems⟩

theorem yields_moreItems (hp : ∀ i, YieldsPart (item i) part) {fuel index : Nat} {as : List α}
    (hi : index ≠ 0) (hf : cs.length < fuel) (h : Yields (items item fuel index) cs as rest) :
    ∃ body, cs = body ++ rest ∧ MoreParts part body as ∧ rest.head? = some ']' := by
  induction fuel generalizing index cs as with
  | zero => exact absurd hf (Nat.not_lt_zero _)
  | succ fuel ih =>
      rcases yields_items hp h with ⟨rfl, gap, rfl, blank, bracket⟩ |
        ⟨a, others, gap, t, tail, rfl, blank, written, next, later⟩
      · exact ⟨gap, rfl, .nil blank, bracket⟩
      · rw [decide_eq_false hi] at next
        obtain ⟨before, gap', rfl, blank', blank''⟩ := yields_nextItem_later next
        simp only [List.length_append, List.length_cons] at hf
        obtain ⟨body, rfl, parts, bracket⟩ := ih (Nat.succ_ne_zero index) (by omega) later
        refine ⟨before ++ ',' :: ((gap' ++ gap) ++ (t ++ body)), by simp, ?_, bracket⟩
        exact .cons blank' (blank''.append blank) written parts

/-- The items of an array are parts with commas between them, up to a bracket. -/
theorem yields_allItems (hp : ∀ i, YieldsPart (item i) part) (filled : ∀ t a, part t a → t ≠ [])
    {as : List α} (h : Yields (allItems item) cs as rest) :
    ∃ body, cs = body ++ rest ∧ Parts part body as ∧ rest.head? = some ']' := by
  unfold allItems at h
  rcases yields_items hp h.of_remaining with ⟨rfl, gap, rfl, blank, bracket⟩ |
    ⟨a, others, gap, t, tail, rfl, blank, written, next, later⟩
  · exact ⟨gap, rfl, .nil blank, bracket⟩
  · obtain ⟨gap', rfl, blank'⟩ := yields_nextItem_first next
    -- The first item takes a character, so that the fuel is enough for those behind it.
    have taken := List.length_pos_of_ne_nil (filled t a written)
    have enough : tail.length < (gap' ++ (gap ++ (t ++ tail))).length := by
      simp only [List.length_append]
      omega
    obtain ⟨body, rfl, parts, bracket⟩ := yields_moreItems hp (Nat.succ_ne_zero 0) enough later
    refine ⟨(gap' ++ gap) ++ (t ++ body), by simp, ?_, bracket⟩
    exact .cons (blank'.append blank) written parts

end Items

/-! ## Members -/

section Members

variable {cs rest : List Char}

theorem yields_nextMember_none {first : Bool} (h : Yields (nextMember first) cs false rest) :
    ∃ gap, cs = gap ++ rest ∧ Blank gap ∧ rest.head? = some '}' := by
  unfold nextMember at h
  obtain ⟨gap, c, mid, rfl, blank, -, look⟩ := h.of_someToken fun _ => not_yields_failAhead _
  dsimp only at look
  split at look
  · next brace =>
    obtain ⟨-, rfl⟩ := yields_pure look
    exact ⟨gap, rfl, blank, by rw [brace]; rfl⟩
  · split at look
    · split at look
      · cases (yields_pure look).1
      · exact absurd look (not_yields_failAhead _)
    · split at look
      · obtain ⟨_, tail, -, -, -, later⟩ := look.of_advance.of_token
        split at later
        · exact absurd later (not_yields_failAhead _)
        · split at later
          · cases (yields_pure later).1
          · split at later
            · exact absurd later (not_yields_failAhead _)
            · exact absurd later (not_yields_failAhead _)
      · exact absurd look (not_yields_failAhead _)

theorem yields_nextMember_first (h : Yields (nextMember true) cs true rest) :
    ∃ gap tail, cs = gap ++ rest ∧ Blank gap ∧ rest = '"' :: tail := by
  unfold nextMember at h
  obtain ⟨gap, c, mid, rfl, blank, -, look⟩ := h.of_someToken fun _ => not_yields_failAhead _
  dsimp only at look
  split at look
  · cases (yields_pure look).1
  · simp only [if_true] at look
    split at look
    · next quote =>
      obtain ⟨-, rfl⟩ := yields_pure look
      exact ⟨gap, mid, rfl, blank, by rw [quote]⟩
    · exact absurd look (not_yields_failAhead _)

theorem yields_nextMember_later (h : Yields (nextMember false) cs true rest) :
    ∃ before gap tail, cs = before ++ ',' :: (gap ++ rest) ∧ Blank before ∧ Blank gap ∧
      rest = '"' :: tail := by
  unfold nextMember at h
  obtain ⟨before, c, mid, rfl, blank, -, look⟩ := h.of_someToken fun _ => not_yields_failAhead _
  dsimp only at look
  split at look
  · cases (yields_pure look).1
  · simp only [Bool.false_eq_true, if_false] at look
    split at look
    · next comma =>
      obtain ⟨gap, tail, rfl, blank', -, later⟩ := look.of_advance.of_token
      split at later
      · exact absurd later (not_yields_failAhead _)
      · next d first =>
        split at later
        · next quote =>
          obtain ⟨-, rfl⟩ := yields_pure later
          obtain ⟨tail, rfl⟩ := List.head?_eq_some_iff.1 first
          exact ⟨before, gap, tail, by rw [comma], blank, blank', by rw [quote]⟩
        · split at later
          · exact absurd later (not_yields_failAhead _)
          · exact absurd later (not_yields_failAhead _)
    · exact absurd look (not_yields_failAhead _)

theorem yields_colon (h : Yields colon cs () rest) :
    ∃ gap, cs = gap ++ ':' :: rest ∧ Blank gap := by
  unfold colon at h
  obtain ⟨gap, c, mid, rfl, blank, -, look⟩ := h.of_someToken fun _ => not_yields_failAhead _
  dsimp only at look
  split at look
  · next mark =>
    rw [mark, yields_advance look]
    exact ⟨gap, rfl, blank⟩
  · exact absurd look (not_yields_failAhead _)

theorem yields_nextKey_none {first : Bool} (h : Yields (nextKey first) cs none rest) :
    ∃ gap, cs = gap ++ rest ∧ Blank gap ∧ rest.head? = some '}' := by
  unfold nextKey at h
  obtain ⟨more, mid, next, later⟩ := h.of_within.of_bind
  cases more with
  | false =>
      obtain ⟨-, rfl⟩ := yields_pure later
      exact yields_nextMember_none next
  | true =>
      obtain ⟨_, tail, -, read⟩ := later.of_bind
      obtain ⟨key, left, -, last⟩ := read.of_bind
      cases (yields_pure last).1

/-- A key stands where a next member starts. -/
theorem yields_nextKey_some {first : Bool} {key : String}
    (h : Yields (nextKey first) cs (some key) rest) :
    ∃ t chars, key = String.ofList chars ∧ Characters t chars ∧
      Yields (nextMember first) cs true ('"' :: (t ++ '"' :: rest)) := by
  unfold nextKey at h
  obtain ⟨more, mid, next, later⟩ := h.of_within.of_bind
  cases more with
  | false => cases (yields_pure later).1
  | true =>
      have quote : ∃ tail, mid = '"' :: tail := by
        cases first with
        | true =>
            obtain ⟨-, tail, -, -, rfl⟩ := yields_nextMember_first next
            exact ⟨tail, rfl⟩
        | false =>
            obtain ⟨-, -, tail, -, -, -, rfl⟩ := yields_nextMember_later next
            exact ⟨tail, rfl⟩
      obtain ⟨tail, rfl⟩ := quote
      obtain ⟨name, left, read, last⟩ := later.of_advance.of_bind
      obtain ⟨t, chars, rfl, written, rfl⟩ := yields_stringBody read
      obtain ⟨same, rfl⟩ := yields_pure last
      exact ⟨t, chars, Option.some.inj same, written, next⟩

variable {member : String → Decode Json} {inner : List Char → Json → Prop}
  {refuse : List String → String → Option Fault}

/-- There are no more members, or there is one and others behind it. -/
theorem yields_members (hp : ∀ key, YieldsPart (member key) inner) {fuel : Nat}
    {seen : List String} {ms : List (String × Json)}
    (h : Yields (members refuse member (fuel + 1) seen) cs ms rest) :
    (ms = [] ∧ ∃ gap, cs = gap ++ rest ∧ Blank gap ∧ rest.head? = some '}') ∨
      ∃ m others t tail, ms = m :: others ∧ EntryText inner t m ∧
        Yields (nextMember seen.isEmpty) cs true (t ++ tail) ∧
        Yields (members refuse member fuel (m.1 :: seen)) tail others rest := by
  unfold members at h
  obtain ⟨next, mid, read, later⟩ := h.of_bind
  cases next with
  | none =>
      obtain ⟨rfl, rfl⟩ := yields_pure later
      exact .inl ⟨rfl, yields_nextKey_none read⟩
  | some key =>
      obtain ⟨t, chars, rfl, written, next⟩ := yields_nextKey_some read
      dsimp only at later
      split at later
      · exact absurd later (not_yields_failOpen _)
      · obtain ⟨_, afterColon, mark, behind⟩ := later.of_bind
        obtain ⟨v, tail, value, behindValue⟩ := behind.of_bind
        obtain ⟨others, left, moreMembers, last⟩ := behindValue.of_bind
        obtain ⟨before, rfl, blank⟩ := yields_colon mark
        obtain ⟨after, u, rfl, blank', held⟩ := hp _ _ _ _ value.of_within
        obtain ⟨rfl, rfl⟩ := yields_pure last
        refine .inr ⟨_, others, _, tail, rfl, .mk written blank blank' held, ?_, moreMembers⟩
        simpa using next

theorem yields_moreMembers (hp : ∀ key, YieldsPart (member key) inner) {fuel : Nat}
    {seen : List String} {ms : List (String × Json)} (hs : seen ≠ []) (hf : cs.length < fuel)
    (h : Yields (members refuse member fuel seen) cs ms rest) :
    ∃ body, cs = body ++ rest ∧ MoreParts (EntryText inner) body ms ∧ rest.head? = some '}' := by
  induction fuel generalizing seen cs ms with
  | zero => exact absurd hf (Nat.not_lt_zero _)
  | succ fuel ih =>
      rcases yields_members hp h with ⟨rfl, gap, rfl, blank, brace⟩ |
        ⟨m, others, t, tail, rfl, written, next, later⟩
      · exact ⟨gap, rfl, .nil blank, brace⟩
      · rw [List.isEmpty_eq_false_iff.2 hs] at next
        obtain ⟨before, gap, -, rfl, blank, blank', -⟩ := yields_nextMember_later next
        simp only [List.length_append, List.length_cons] at hf
        obtain ⟨body, rfl, parts, brace⟩ := ih (List.cons_ne_nil _ _) (by omega) later
        refine ⟨before ++ ',' :: (gap ++ (t ++ body)), by simp, ?_, brace⟩
        exact .cons blank blank' written parts

/-- The members of an object are parts with commas between them, up to a brace. -/
theorem yields_allMembers (hp : ∀ key, YieldsPart (member key) inner)
    {ms : List (String × Json)} (h : Yields (allMembers refuse member) cs ms rest) :
    ∃ body, cs = body ++ rest ∧ Parts (EntryText inner) body ms ∧ rest.head? = some '}' := by
  unfold allMembers at h
  rcases yields_members hp h.of_remaining with ⟨rfl, gap, rfl, blank, brace⟩ |
    ⟨m, others, t, tail, rfl, written, next, later⟩
  · exact ⟨gap, rfl, .nil blank, brace⟩
  · obtain ⟨gap, quoted, rfl, blank, start⟩ := yields_nextMember_first next
    have taken : 0 < t.length := by
      cases written with
      | mk => simp
    have enough : tail.length < (gap ++ (t ++ tail)).length := by
      simp only [List.length_append]
      omega
    obtain ⟨body, rfl, parts, brace⟩ := yields_moreMembers hp (List.cons_ne_nil _ _) enough later
    exact ⟨gap ++ (t ++ body), by simp, .cons blank written parts, brace⟩

end Members

end FormRules.Json.Decode

namespace FormRules.Json

open Decode

/-! ## Values -/

/-- A text starts with the text of a value, perhaps behind white space.  Anything may be left over,
except that what follows a number is no further part of it. -/
inductive Starts (levels : Nat) : List Char → Json → List Char → Prop where
  | number {gap rest : List Char} {n : Numeral} {x : Number} (hg : Blank gap)
      (hx : n.number? = some x) (he : EndsNumeral n.fraction n.exponent rest) :
      Starts levels (gap ++ (n.text ++ rest)) (.number x) rest
  | other {gap t rest : List Char} {v : Json} (hg : Blank gap) (ht : ValueText levels t v)
      (hv : ∀ x, v ≠ .number x) : Starts levels (gap ++ (t ++ rest)) v rest

theorem ValueText.ne_nil {levels : Nat} {t : List Char} {v : Json} (h : ValueText levels t v) :
    t ≠ [] := by
  obtain ⟨c, cs, rfl, -⟩ := h.opens
  exact List.cons_ne_nil c cs

theorem ScalarText.valueText {t : List Char} {v : Json} (h : ScalarText t v) (levels : Nat) :
    ValueText levels t v := by
  cases levels with
  | zero => exact h
  | succ levels => exact .scalar h

variable {levels : Nat} {cs rest : List Char} {v : Json}

theorem ValueText.starts {gap t : List Char} (ht : ValueText levels t v) (hg : Blank gap)
    (hv : ∀ x, v ≠ .number x) (rest : List Char) : Starts levels (gap ++ (t ++ rest)) v rest :=
  .other hg ht hv

theorem Starts.behind {gap : List Char} (h : Starts levels cs v rest) (hg : Blank gap) :
    Starts levels (gap ++ cs) v rest := by
  cases h with
  | number hg' hx he =>
      rw [← List.append_assoc]
      exact .number (hg.append hg') hx he
  | other hg' ht hv =>
      rw [← List.append_assoc]
      exact .other (hg.append hg') ht hv

theorem Starts.exists_text (h : Starts levels cs v rest) :
    ∃ gap t, cs = gap ++ (t ++ rest) ∧ Blank gap ∧ ValueText levels t v := by
  cases h with
  | number hg hx he => exact ⟨_, _, rfl, hg, (ScalarText.number hx).valueText levels⟩
  | other hg ht hv => exact ⟨_, _, rfl, hg, ht⟩

/-- What a text starts with is read. -/
theorem Starts.reads (h : Starts levels cs v rest) : Reads (value (levels + 1)) cs v rest := by
  cases h with
  | @number gap _ n x hg hx he =>
      obtain ⟨c, cs, ht, hc⟩ := startsNumber_text n
      have hne := fun {d : Char} (hd : startsNumber d = false) => ne_of_startsNumber hc hd
      rw [ht]
      exact reads_value_of_scalar levels hg (isSpace_of_startsNumber hc) (hne (by decide))
        (hne (by decide)) (Numeral.reads_scalar hx he ht hc)
  | other hg ht hv => exact ht.readsAny (Nat.lt_succ_self levels) hg (.inr hv)

theorem yields_wordValue {c : Char} {w : List Char} {u : Json}
    (h : Yields (do advance; word w; return u) (c :: cs) v rest) : v = u ∧ cs = w ++ rest := by
  obtain ⟨_, mid, read, last⟩ := h.of_advance.of_bind
  obtain ⟨rfl, rfl⟩ := yields_pure last
  exact ⟨rfl, yields_word read⟩

theorem yields_scalar {c : Char} (h : Yields (scalar c) (c :: cs) v rest) :
    Starts levels (c :: cs) v rest := by
  have other {t : List Char} {v : Json} (ht : ScalarText t v) (hv : ∀ x, v ≠ .number x) :
      Starts levels (t ++ rest) v rest :=
    (ht.valueText levels).starts blank_nil hv rest
  unfold scalar at h
  split at h
  · next letter =>
    obtain ⟨rfl, rfl⟩ := yields_wordValue h
    rw [letter]
    exact other .null fun _ h => by cases h
  split at h
  · next letter =>
    obtain ⟨rfl, rfl⟩ := yields_wordValue h
    rw [letter]
    exact other (.bool true) fun _ h => by cases h
  split at h
  · next letter =>
    obtain ⟨rfl, rfl⟩ := yields_wordValue h
    rw [letter]
    exact other (.bool false) fun _ h => by cases h
  split at h
  · next quote =>
    obtain ⟨s, mid, read, last⟩ := h.of_advance.of_bind
    obtain ⟨t, chars, rfl, written, rfl⟩ := yields_stringBody read
    obtain ⟨rfl, rfl⟩ := yields_pure last
    have start := other (.string written) fun _ h => by cases h
    rw [quote]
    simpa using start
  split at h
  · obtain ⟨x, mid, read, last⟩ := h.of_bind
    obtain ⟨n, written, number, stop⟩ := yields_anyNumber read
    obtain ⟨rfl, rfl⟩ := yields_pure last
    rw [written]
    exact .number blank_nil number stop
  · exact absurd h (not_yields_failAhead _)

/-- What is read is what the text starts with. -/
theorem yields_value (h : Yields (value (levels + 1)) cs v rest) : Starts levels cs v rest := by
  -- The parts of a container have one level less than the container.
  induction levels using Nat.strongRecOn generalizing cs v rest with
  | ind levels ih =>
      have inner {less : Nat} (within : levels = less + 1) :
          YieldsPart (value levels) (ValueText less) := by
        subst within
        exact fun cs a rest h => (ih less (Nat.lt_succ_self less) h).exists_text
      unfold value at h
      obtain ⟨gap, c, mid, rfl, blank, -, look⟩ :=
        h.of_placed.of_someToken fun _ => not_yields_failAhead _
      dsimp only at look
      split at look
      · next bracket =>
        obtain ⟨items, left, array, last⟩ := look.of_bind
        obtain ⟨level, stop, read, close⟩ := yields_inArray array
        obtain ⟨less, within⟩ := Nat.exists_eq_succ_of_ne_zero level
        obtain ⟨body, rfl, parts, closing⟩ :=
          yields_allItems (fun _ => inner within) (fun _ _ => ValueText.ne_nil) read
        obtain ⟨rfl, rfl⟩ := yields_pure last
        rw [close closing, bracket, within]
        have text : ValueText (less + 1) ('[' :: (body ++ [']'])) (.array items) := .array parts
        have start := text.starts blank (fun _ h => by cases h) rest
        simpa using start
      split at look
      · next brace =>
        obtain ⟨members, left, object, last⟩ := look.of_bind
        obtain ⟨level, stop, read, close⟩ := yields_inObject object
        obtain ⟨less, within⟩ := Nat.exists_eq_succ_of_ne_zero level
        obtain ⟨body, rfl, parts, closing⟩ := yields_allMembers (fun _ => inner within) read
        obtain ⟨rfl, rfl⟩ := yields_pure last
        rw [close closing, brace, within]
        have text : ValueText (less + 1) ('{' :: (body ++ ['}']))
            (.object (Entries.ofList members)) := .object parts
        have start := text.starts blank (fun _ h => by cases h) rest
        simpa using start
      · exact (yields_scalar look).behind blank

/-- A text starts with one value at most, and there is one way to cut it off. -/
theorem Starts.unique {u : Json} {left : List Char} (h : Starts levels cs v rest)
    (h' : Starts levels cs u left) : v = u ∧ rest = left := by
  obtain ⟨q, read⟩ := h.reads ⟨1, 0⟩
  obtain ⟨q', read'⟩ := h'.reads ⟨1, 0⟩
  cases read.symm.trans read'
  exact ⟨rfl, rfl⟩

theorem IsText.exists_starts (h : IsText levels cs v) :
    ∃ rest, Starts levels cs v rest ∧ Blank rest := by
  obtain ⟨before, t, after, rfl, blank, blank', text⟩ := h
  have reads := text.readsAny (Nat.lt_succ_self levels) blank (.inl (endsValue_of_blank blank'))
  exact ⟨after, yields_value reads.yields, blank'⟩

/-- A text is that of one value just if only white space is left behind it. -/
theorem Starts.isText_iff (h : Starts levels cs v rest) : IsText levels cs v ↔ Blank rest := by
  constructor
  · intro text
    obtain ⟨left, start, blank⟩ := text.exists_starts
    rwa [(h.unique start).2]
  · intro blank
    obtain ⟨gap, t, rfl, blank', text⟩ := h.exists_text
    exact ⟨gap, t, rest, rfl, blank', blank, text⟩

/-- A text is read as a value just if it starts with a text of that value. -/
theorem ofText_eq_ok_iff {s : String} :
    ofText s = .ok v ↔ ∃ rest, Starts (depthLimit - 1) s.toList v rest := by
  constructor
  · intro h
    obtain ⟨rest, read⟩ := exists_yields_of_run h
    exact ⟨rest, yields_value read⟩
  · rintro ⟨rest, start⟩
    exact start.reads.run

end FormRules.Json
