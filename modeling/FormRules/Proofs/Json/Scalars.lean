import Mathlib.Tactic.SplitIfs
import FormRules.Json.Printer
import FormRules.Proofs.Json.Reads

/-!
# Reading strings

The characters between the quotes of a string stand for themselves or are
escaped, by a letter or by their code, and each way of writing them is read as
the characters it stands for.  A quoted string is one of these ways.
-/

namespace FormRules.Json.Decode

open Text

/-! ## Ways of writing a string -/

/-- The characters of a string as they may be written between its quotes.  Codes of four digits
stand for the characters of the basic plane, and those of the others are written as two surrogates. -/
inductive Characters : List Char → List Char → Prop where
  | nil : Characters [] []
  | plain {c : Char} {t cs : List Char} (hq : c ≠ '"') (hb : c ≠ '\\') (h32 : 32 ≤ c.toNat)
      (more : Characters t cs) : Characters (c :: t) (c :: cs)
  | letter {e c : Char} {t cs : List Char} (he : simpleEscape? e = some c)
      (more : Characters t cs) : Characters ('\\' :: e :: t) (c :: cs)
  | code {w x y z : Char} {n : Nat} {t cs : List Char} (hn : hexValue4? w x y z = some n)
      (hs : n < 0xD800 ∨ 0xDFFF < n) (more : Characters t cs) :
      Characters ('\\' :: 'u' :: w :: x :: y :: z :: t) (Char.ofNat n :: cs)
  | surrogates {w x y z w' x' y' z' : Char} {high low : Nat} {t cs : List Char}
      (hh : hexValue4? w x y z = some high) (hl : hexValue4? w' x' y' z' = some low)
      (high_range : 0xD800 ≤ high ∧ high ≤ 0xDBFF) (low_range : 0xDC00 ≤ low ∧ low ≤ 0xDFFF)
      (more : Characters t cs) :
      Characters
        ('\\' :: 'u' :: w :: x :: y :: z :: '\\' :: 'u' :: w' :: x' :: y' :: z' :: t)
        (Char.ofNat ((high - 0xD800) * 0x400 + (low - 0xDC00) + 0x10000) :: cs)

theorem Characters.length_le {t cs : List Char} (h : Characters t cs) :
    cs.length ≤ t.length := by
  induction h with
  | nil => exact Nat.le_refl 0
  | _ =>
      simp only [List.length_cons]
      omega

/-! ## Escapes -/

theorem reads_hexEscape {a b c d : Char} {n : Nat} (h : hexValue4? a b c d = some n)
    (rest : List Char) : Reads hexEscape (a :: b :: c :: d :: rest) n rest := by
  intro p
  refine ⟨⟨p.line, p.column + 4⟩, ?_⟩
  simp only [hexEscape, h]

theorem reads_simpleEscape {c d : Char} (h : simpleEscape? c = some d) (rest : List Char) :
    Reads escapeSequence (c :: rest) d rest := by
  unfold escapeSequence
  apply Reads.peek
  simp only [List.head?_cons, h]
  exact Reads.advance (Reads.pure d rest)

theorem reads_codeEscape {cs rest : List Char} {c : Char} (h : Reads unicodeEscape cs c rest) :
    Reads escapeSequence ('u' :: cs) c rest := by
  have hu : simpleEscape? 'u' = none := by decide
  unfold escapeSequence
  apply Reads.peek
  simp only [List.head?_cons, hu, if_true]
  exact Reads.advance h

theorem reads_unicodeEscape {w x y z : Char} {n : Nat} (hn : hexValue4? w x y z = some n)
    (hs : n < 0xD800 ∨ 0xDFFF < n) (rest : List Char) :
    Reads unicodeEscape (w :: x :: y :: z :: rest) (Char.ofNat n) rest := by
  have hlow : ¬ ((0xDC00 ≤ n && n ≤ 0xDFFF) = true) := by
    simp only [Bool.and_eq_true, decide_eq_true_eq]
    omega
  have hhigh : (decide (n < 0xD800) || decide (0xDBFF < n)) = true := by
    simp only [Bool.or_eq_true, decide_eq_true_eq]
    omega
  unfold unicodeEscape
  apply (reads_hexEscape hn rest).bind
  rw [if_neg hlow, if_pos hhigh]
  exact Reads.pure _ rest

theorem reads_hexEscapeContinues (c : Char) (rest : List Char) :
    Reads (hexEscapeContinues c) (c :: rest) () rest := by
  unfold hexEscapeContinues
  apply Reads.peek
  simp only [List.head?_cons, if_true]
  exact reads_advance c rest

theorem reads_surrogates {w x y z w' x' y' z' : Char} {high low : Nat}
    (hh : hexValue4? w x y z = some high) (hl : hexValue4? w' x' y' z' = some low)
    (high_range : 0xD800 ≤ high ∧ high ≤ 0xDBFF) (low_range : 0xDC00 ≤ low ∧ low ≤ 0xDFFF)
    (rest : List Char) :
    Reads unicodeEscape (w :: x :: y :: z :: '\\' :: 'u' :: w' :: x' :: y' :: z' :: rest)
      (Char.ofNat ((high - 0xD800) * 0x400 + (low - 0xDC00) + 0x10000)) rest := by
  have hlow : ¬ ((0xDC00 ≤ high && high ≤ 0xDFFF) = true) := by
    simp only [Bool.and_eq_true, decide_eq_true_eq]
    omega
  have hhigh : ¬ ((decide (high < 0xD800) || decide (0xDBFF < high)) = true) := by
    simp only [Bool.or_eq_true, decide_eq_true_eq]
    omega
  have hpair : ¬ ((decide (low < 0xDC00) || decide (0xDFFF < low)) = true) := by
    simp only [Bool.or_eq_true, decide_eq_true_eq]
    omega
  unfold unicodeEscape
  apply (reads_hexEscape hh _).bind
  rw [if_neg hlow, if_neg hhigh]
  apply (reads_hexEscapeContinues '\\' _).bind
  apply (reads_hexEscapeContinues 'u' _).bind
  apply (reads_hexEscape hl rest).bind
  rw [if_neg hpair]
  exact Reads.pure _ rest

/-- A backslash makes the next character or characters one. -/
theorem reads_escaped {fuel : Nat} {c : Char} {cs mid tail rest : List Char}
    (h : Reads escapeSequence cs c mid) (ht : Reads (stringChars fuel) mid tail rest) :
    Reads (stringChars (fuel + 1)) ('\\' :: cs) (c :: tail) rest := by
  unfold stringChars
  apply Reads.peek
  simp only [List.head?_cons]
  rw [if_neg (by decide), if_pos trivial]
  apply Reads.advance
  apply h.bind
  apply ht.bind
  exact Reads.pure (c :: tail) rest

/-! ## Strings -/

/-- However the characters of a string are written, they are read back. -/
theorem Characters.reads {t cs : List Char} (h : Characters t cs) {fuel : Nat}
    (hf : cs.length < fuel) (rest : List Char) :
    Reads (stringChars fuel) (t ++ '"' :: rest) cs rest := by
  induction h generalizing fuel with
  | nil =>
      obtain ⟨fuel, rfl⟩ : ∃ n, fuel = n + 1 := ⟨fuel - 1, by simp at hf; omega⟩
      unfold stringChars
      apply Reads.peek
      simp only [List.nil_append, List.head?_cons, if_true]
      exact Reads.advance (Reads.pure [] rest)
  | @plain c t cs hq hb h32 more ih =>
      obtain ⟨fuel, rfl⟩ : ∃ n, fuel = n + 1 := ⟨fuel - 1, by simp at hf; omega⟩
      unfold stringChars
      apply Reads.peek
      simp only [List.cons_append, List.head?_cons]
      rw [if_neg hq, if_neg hb, if_neg (Nat.not_lt.2 h32)]
      apply Reads.advance
      apply (ih (by simpa using hf)).bind
      exact Reads.pure (c :: cs) rest
  | letter he more ih =>
      obtain ⟨fuel, rfl⟩ : ∃ n, fuel = n + 1 := ⟨fuel - 1, by simp at hf; omega⟩
      exact reads_escaped (reads_simpleEscape he _) (ih (by simpa using hf))
  | code hn hs more ih =>
      obtain ⟨fuel, rfl⟩ : ∃ n, fuel = n + 1 := ⟨fuel - 1, by simp at hf; omega⟩
      exact reads_escaped (reads_codeEscape (reads_unicodeEscape hn hs _)) (ih (by simpa using hf))
  | surrogates hh hl high_range low_range more ih =>
      obtain ⟨fuel, rfl⟩ : ∃ n, fuel = n + 1 := ⟨fuel - 1, by simp at hf; omega⟩
      exact reads_escaped (reads_codeEscape (reads_surrogates hh hl high_range low_range _))
        (ih (by simpa using hf))

theorem Characters.reads_stringBody {t cs : List Char} (h : Characters t cs) (rest : List Char) :
    Reads stringBody (t ++ '"' :: rest) (String.ofList cs) rest := by
  have hl := h.length_le
  unfold stringBody
  apply (reads_remaining _).bind
  apply (h.reads (by rw [List.length_append]; omega) rest).bind
  exact Reads.pure (String.ofList cs) rest

/-! ## Quoted strings -/

theorem hexValue4?_hexDigit {n : Nat} (h : n < 32) :
    hexValue4? '0' '0' (Quoted.hexDigit (n / 16)) (Quoted.hexDigit n) = some n := by
  have hall : ∀ n < 32,
      hexValue4? '0' '0' (Quoted.hexDigit (n / 16)) (Quoted.hexDigit n) = some n := by
    decide
  exact hall n h

/-- The written form of any character stands for the character. -/
theorem characters_escape (c : Char) {t cs : List Char} (more : Characters t cs) :
    Characters (Quoted.escape c ++ t) (c :: cs) := by
  unfold Quoted.escape
  split_ifs with hq hb hn hr ht h8 h12 h32
  · exact .letter (by rw [hq]; decide) more
  · exact .letter (by rw [hb]; decide) more
  · exact .letter (by rw [hn]; decide) more
  · exact .letter (by rw [hr]; decide) more
  · exact .letter (by rw [ht]; decide) more
  · have hc : Char.ofNat 8 = c := by
      rw [← h8]
      exact Char.ofNat_toNat c
    exact .letter (by rw [← hc]; decide) more
  · have hc : Char.ofNat 12 = c := by
      rw [← h12]
      exact Char.ofNat_toNat c
    exact .letter (by rw [← hc]; decide) more
  · have hc := Characters.code (hexValue4?_hexDigit h32) (.inl (by omega)) more
    rw [Char.ofNat_toNat] at hc
    exact hc
  · exact .plain hq hb (Nat.not_lt.1 h32) more

theorem characters_body (cs : List Char) :
    ∃ t, Quoted.body cs = t ++ ['"'] ∧ Characters t cs := by
  induction cs with
  | nil => exact ⟨[], rfl, .nil⟩
  | cons c cs ih =>
      obtain ⟨t, ht, hc⟩ := ih
      exact ⟨Quoted.escape c ++ t, by rw [Quoted.body, ht, List.append_assoc],
        characters_escape c hc⟩

/-- Every string is read back from its quoted form. -/
theorem reads_stringBody (s : String) (rest : List Char) :
    Reads stringBody (Quoted.body s.toList ++ rest) s rest := by
  obtain ⟨t, ht, hc⟩ := characters_body s.toList
  have hr := hc.reads_stringBody rest
  rw [String.ofList_toList] at hr
  rw [ht, List.append_assoc]
  exact hr

end FormRules.Json.Decode
