import FormRules.Proofs.Json.Texts

/-!
# What a step has read

A step that succeeds somewhere tells what the text before the rest looks like.
The rules here take a success apart along the binds of the decoder, and then say
of words and strings that nothing is read but what their grammar allows.
-/

namespace FormRules.Json.Decode

open Text

variable {α β : Type}

/-! ## Successes of a step -/

/-- From some place, a step read the start of a text as a value and left the rest. -/
def Yields (step : Decode α) (cs : List Char) (a : α) (rest : List Char) : Prop :=
  ∃ p q, step ⟨cs, p⟩ = .ok a ⟨rest, q⟩

variable {step : Decode α} {cs rest : List Char} {a : α} {b : β}

theorem Reads.yields (h : Reads step cs a rest) : Yields step cs a rest := by
  obtain ⟨q, read⟩ := h ⟨1, 0⟩
  exact ⟨⟨1, 0⟩, q, read⟩

/-- A run succeeds just if its step does on the whole text. -/
theorem exists_yields_of_run {cs : List Char} (h : step.run cs = .ok a) :
    ∃ rest, Yields step cs a rest := by
  unfold Decode.run at h
  cases read : step (Cursor.start cs) with
  | error e s => simp [read] at h
  | ok v s =>
      simp only [read, Except.ok.injEq] at h
      subst h
      exact ⟨s.rest, ⟨1, 0⟩, s.position, read⟩

theorem Yields.of_bind {next : α → Decode β} (h : Yields (step >>= next) cs b rest) :
    ∃ a mid, Yields step cs a mid ∧ Yields (next a) mid b rest := by
  obtain ⟨p, q, read⟩ := h
  change EStateM.bind step next ⟨cs, p⟩ = _ at read
  unfold EStateM.bind at read
  cases first : step ⟨cs, p⟩ with
  | error e s => simp [first] at read
  | ok a s =>
      rw [first] at read
      exact ⟨a, s.rest, ⟨p, s.position, first⟩, s.position, q, read⟩

theorem yields_pure {v : α} (h : Yields (Pure.pure v) cs a rest) : a = v ∧ rest = cs := by
  obtain ⟨p, q, read⟩ := h
  cases read
  exact ⟨rfl, rfl⟩

theorem Yields.of_map {f : α → β} (h : Yields (f <$> step) cs b rest) :
    ∃ a, b = f a ∧ Yields step cs a rest := by
  obtain ⟨p, q, read⟩ := h
  change EStateM.map f step ⟨cs, p⟩ = _ at read
  unfold EStateM.map at read
  cases first : step ⟨cs, p⟩ with
  | error e s => simp [first] at read
  | ok a s =>
      rw [first] at read
      cases read
      exact ⟨a, rfl, p, q, first⟩

theorem Yields.of_placed (h : Yields (Decode.placed step) cs a rest) : Yields step cs a rest := by
  obtain ⟨p, q, read⟩ := h
  unfold Decode.placed at read
  cases first : step ⟨cs, p⟩ with
  | error e s => simp [first] at read
  | ok a s =>
      rw [first] at read
      cases read
      exact ⟨p, q, first⟩

theorem Yields.of_within {segment : Segment} (h : Yields (Decode.within segment step) cs a rest) :
    Yields step cs a rest := by
  obtain ⟨p, q, read⟩ := h
  unfold Decode.within at read
  cases first : step ⟨cs, p⟩ with
  | error e s => simp [first] at read
  | ok a s =>
      rw [first] at read
      cases read
      exact ⟨p, q, first⟩

theorem Yields.of_closing {close : Decode Unit}
    (h : Yields (Decode.closing close step) cs a rest) :
    ∃ mid, Yields step cs a mid ∧ Yields close mid () rest := by
  obtain ⟨p, q, read⟩ := h
  unfold Decode.closing at read
  cases first : step ⟨cs, p⟩ with
  | error e s =>
      simp only [first] at read
      cases last : close s <;> simp [last] at read
  | ok v s =>
      simp only [first] at read
      cases last : close s with
      | error e t => simp [last] at read
      | ok u t =>
          simp only [last] at read
          cases read
          exact ⟨s.rest, ⟨p, s.position, first⟩, s.position, q, last⟩

/-! ### Failures -/

theorem not_yields_fail (fault : Fault) : ¬Yields (fail fault) cs a rest := by
  rintro ⟨p, q, ⟨⟩⟩

theorem not_yields_failAhead (fault : Fault) : ¬Yields (failAhead fault) cs a rest := by
  rintro ⟨p, q, ⟨⟩⟩

theorem not_yields_failOpen (fault : Fault) : ¬Yields (failOpen fault) cs a rest := by
  rintro ⟨p, q, ⟨⟩⟩

/-! ### Single characters -/

theorem yields_peek {c : Option Char} (h : Yields peek cs c rest) : c = cs.head? ∧ rest = cs := by
  obtain ⟨p, q, read⟩ := h
  cases read
  exact ⟨rfl, rfl⟩

theorem yields_remaining {n : Nat} (h : Yields remaining cs n rest) :
    n = cs.length ∧ rest = cs := by
  obtain ⟨p, q, read⟩ := h
  cases read
  exact ⟨rfl, rfl⟩

theorem yields_advance {c : Char} (h : Yields advance (c :: cs) () rest) : rest = cs := by
  obtain ⟨p, q, read⟩ := h
  cases read
  rfl

theorem yields_advance_nil (h : Yields advance [] () rest) : rest = [] := by
  obtain ⟨p, q, read⟩ := h
  cases read
  rfl

theorem Yields.of_peek {next : Option Char → Decode β}
    (h : Yields (Decode.peek >>= next) cs b rest) :
    Yields (next cs.head?) cs b rest := by
  obtain ⟨c, mid, look, later⟩ := h.of_bind
  obtain ⟨rfl, rfl⟩ := yields_peek look
  exact later

theorem Yields.of_remaining {next : Nat → Decode β}
    (h : Yields (Decode.remaining >>= next) cs b rest) : Yields (next cs.length) cs b rest := by
  obtain ⟨n, mid, look, later⟩ := h.of_bind
  obtain ⟨rfl, rfl⟩ := yields_remaining look
  exact later

theorem Yields.of_advance {next : Unit → Decode β} {c : Char}
    (h : Yields (Decode.advance >>= next) (c :: cs) b rest) : Yields (next ()) cs b rest := by
  obtain ⟨u, mid, passed, later⟩ := h.of_bind
  obtain rfl := yields_advance passed
  exact later

theorem exists_afterSpace (cs : List Char) (p : Position) :
    ∃ gap rest q, afterSpace cs p = ⟨rest, q⟩ ∧ cs = gap ++ rest ∧ Blank gap ∧
      ∀ c ∈ rest.head?, isSpace c = false := by
  induction cs generalizing p with
  | nil => exact ⟨[], [], p, rfl, rfl, blank_nil, by simp⟩
  | cons c cs ih =>
      cases space : isSpace c with
      | false =>
          refine ⟨[], c :: cs, p, ?_, rfl, blank_nil, by simpa using space⟩
          simp [afterSpace, space]
      | true =>
          obtain ⟨gap, rest, q, after, rfl, blank, stop⟩ := ih (p.after c)
          refine ⟨c :: gap, rest, q, ?_, rfl, ?_, stop⟩
          · simpa [afterSpace, space] using after
          · simpa [Blank, space] using blank

theorem yields_peekToken {c : Option Char} (h : Yields peekToken cs c rest) :
    ∃ gap, cs = gap ++ rest ∧ Blank gap ∧ (∀ d ∈ rest.head?, isSpace d = false) ∧
      c = rest.head? := by
  obtain ⟨p, q, look⟩ := h
  obtain ⟨gap, left, place, after, parts, blank, stop⟩ := exists_afterSpace cs p
  have seen : peekToken ⟨cs, p⟩ = .ok left.head? ⟨left, place⟩ := by
    simp only [peekToken, after]
  rw [seen] at look
  cases look
  exact ⟨gap, parts, blank, stop, rfl⟩

/-- White space is passed up to the character that is looked at. -/
theorem Yields.of_token {next : Option Char → Decode β}
    (h : Yields (peekToken >>= next) cs b rest) :
    ∃ gap mid, cs = gap ++ mid ∧ Blank gap ∧ (∀ c ∈ mid.head?, isSpace c = false) ∧
      Yields (next mid.head?) mid b rest := by
  obtain ⟨c, mid, look, later⟩ := h.of_bind
  obtain ⟨gap, parts, blank, stop, rfl⟩ := yields_peekToken look
  exact ⟨gap, mid, parts, blank, stop, later⟩

/-- There is a next character if a step does not succeed at the end of the text. -/
theorem Yields.of_somePeek {next : Option Char → Decode β} (h : Yields (peek >>= next) cs b rest)
    (ends : ∀ cs, ¬Yields (next none) cs b rest) :
    ∃ c tail, cs = c :: tail ∧ Yields (next (some c)) (c :: tail) b rest := by
  have look := h.of_peek
  cases cs with
  | nil => exact absurd look (ends [])
  | cons c tail => exact ⟨c, tail, rfl, look⟩

theorem Yields.of_someToken {next : Option Char → Decode β}
    (h : Yields (peekToken >>= next) cs b rest) (ends : ∀ cs, ¬Yields (next none) cs b rest) :
    ∃ gap c tail, cs = gap ++ c :: tail ∧ Blank gap ∧ isSpace c = false ∧
      Yields (next (some c)) (c :: tail) b rest := by
  obtain ⟨gap, mid, parts, blank, stop, look⟩ := h.of_token
  cases mid with
  | nil => exact absurd look (ends [])
  | cons c tail => exact ⟨gap, c, tail, parts, blank, stop c rfl, look⟩

/-! ## Words -/

theorem yields_word {w : List Char} (h : Yields (word w) cs () rest) : cs = w ++ rest := by
  induction w generalizing cs with
  | nil => exact (yields_pure h).2.symm
  | cons c w ih =>
      unfold word at h
      obtain ⟨d, cs, rfl, look⟩ := h.of_somePeek fun _ => not_yields_fail _
      dsimp only at look
      split at look
      · next same => rw [same, ih look.of_advance, List.cons_append]
      · exact absurd look (not_yields_failAhead _)

/-! ## Strings -/

theorem yields_hexEscape {n : Nat} (h : Yields hexEscape cs n rest) :
    ∃ w x y z, cs = w :: x :: y :: z :: rest ∧ hexValue4? w x y z = some n := by
  obtain ⟨p, q, read⟩ := h
  unfold hexEscape at read
  split at read
  · next w x y z left whole =>
    split at read
    · next value found =>
      cases read
      exact ⟨w, x, y, z, whole, found⟩
    · cases read
  · split at read <;> cases read

theorem yields_hexEscapeContinues {c : Char} (h : Yields (hexEscapeContinues c) cs () rest) :
    cs = c :: rest := by
  unfold hexEscapeContinues at h
  obtain ⟨d, cs, rfl, look⟩ := h.of_somePeek fun _ => not_yields_fail _
  dsimp only at look
  split at look
  · next same => rw [same, yields_advance look]
  · exact absurd look (not_yields_failAhead _)

/-- What stands between a backslash and the rest of a string: a letter, or the code of a character,
or those of two surrogates. -/
theorem yields_unicodeEscape {c : Char} (h : Yields unicodeEscape cs c rest) :
    ∃ t, cs = t ++ rest ∧
      ∀ {more chars : List Char}, Characters more chars →
        Characters ('\\' :: 'u' :: (t ++ more)) (c :: chars) := by
  unfold unicodeEscape at h
  obtain ⟨high, mid, first, later⟩ := h.of_bind
  obtain ⟨w, x, y, z, rfl, code⟩ := yields_hexEscape first
  split at later
  · exact absurd later (not_yields_fail _)
  · next notLow =>
    simp only [Bool.and_eq_true, decide_eq_true_eq] at notLow
    split at later
    · next plane =>
      simp only [Bool.or_eq_true, decide_eq_true_eq] at plane
      obtain ⟨rfl, rfl⟩ := yields_pure later
      exact ⟨[w, x, y, z], rfl, fun more => .code code (by omega) more⟩
    · next surrogate =>
      simp only [Bool.or_eq_true, decide_eq_true_eq] at surrogate
      obtain ⟨_, mid1, backslash, afterBackslash⟩ := later.of_bind
      obtain ⟨_, mid2, letter, afterLetter⟩ := afterBackslash.of_bind
      obtain ⟨low, mid3, second, last⟩ := afterLetter.of_bind
      obtain rfl := yields_hexEscapeContinues backslash
      obtain rfl := yields_hexEscapeContinues letter
      obtain ⟨w', x', y', z', rfl, code'⟩ := yields_hexEscape second
      split at last
      · exact absurd last (not_yields_fail _)
      · next pair =>
        simp only [Bool.or_eq_true, decide_eq_true_eq] at pair
        obtain ⟨pairValue, rfl⟩ := yields_pure last
        rw [pairValue]
        exact ⟨[w, x, y, z, '\\', 'u', w', x', y', z'], rfl,
          fun more => .surrogates code code' (by omega) (by omega) more⟩

theorem yields_escapeSequence {c : Char} (h : Yields escapeSequence cs c rest) :
    ∃ t, cs = t ++ rest ∧
      ∀ {more chars : List Char}, Characters more chars →
        Characters ('\\' :: (t ++ more)) (c :: chars) := by
  unfold escapeSequence at h
  obtain ⟨e, cs, rfl, look⟩ := h.of_somePeek fun _ => not_yields_fail _
  dsimp only at look
  split at look
  · next d letter =>
    obtain ⟨rfl, rfl⟩ := yields_pure look.of_advance
    exact ⟨[e], rfl, fun more => .letter letter more⟩
  · split at look
    · next isU =>
      obtain ⟨t, rfl, code⟩ := yields_unicodeEscape look.of_advance
      exact ⟨e :: t, rfl, fun more => by rw [isU]; exact code more⟩
    · exact absurd look (not_yields_failAhead _)

theorem yields_stringChars {fuel : Nat} {chars : List Char}
    (h : Yields (stringChars fuel) cs chars rest) :
    ∃ t, cs = t ++ '"' :: rest ∧ Characters t chars := by
  induction fuel generalizing cs chars with
  | zero => exact absurd h (not_yields_fail _)
  | succ fuel ih =>
      unfold stringChars at h
      obtain ⟨c, cs, rfl, look⟩ := h.of_somePeek fun _ => not_yields_fail _
      dsimp only at look
      split at look
      · next quote =>
        obtain ⟨rfl, rfl⟩ := yields_pure look.of_advance
        exact ⟨[], by rw [quote]; rfl, .nil⟩
      · next notQuote =>
        split at look
        · next backslash =>
          obtain ⟨d, mid, escape, later⟩ := look.of_advance.of_bind
          obtain ⟨ds, mid', tail, last⟩ := later.of_bind
          obtain ⟨rfl, rfl⟩ := yields_pure last
          obtain ⟨e, rfl, escaped⟩ := yields_escapeSequence escape
          obtain ⟨t, rfl, written⟩ := ih tail
          refine ⟨'\\' :: (e ++ t), ?_, escaped written⟩
          rw [backslash]
          simp
        · next notBackslash =>
          split at look
          · exact absurd look (not_yields_failAhead _)
          · next printable =>
            obtain ⟨ds, mid', tail, last⟩ := look.of_advance.of_bind
            obtain ⟨rfl, rfl⟩ := yields_pure last
            obtain ⟨t, rfl, written⟩ := ih tail
            exact ⟨c :: t, rfl, .plain notQuote notBackslash (by omega) written⟩

/-- What is read as a string is one of the ways of writing it, with a quote behind it. -/
theorem yields_stringBody {s : String} (h : Yields stringBody cs s rest) :
    ∃ t chars, cs = t ++ '"' :: rest ∧ Characters t chars ∧ s = String.ofList chars := by
  unfold stringBody at h
  obtain ⟨chars, mid, read, last⟩ := h.of_remaining.of_bind
  obtain ⟨rfl, rfl⟩ := yields_pure last
  obtain ⟨t, rfl, written⟩ := yields_stringChars read
  exact ⟨t, chars, rfl, written, rfl⟩

end FormRules.Json.Decode
