import FormRules.Proofs.Json.Containers

/-!
# Texts of values

The texts of one value by their grammar: white space may stand between all parts,
strings and numbers may be written in any of their ways, and a key may occur more
than once.  Whatever text it is, the reader finds its value, if it allows for one
level more than the text has.
-/

namespace FormRules.Json

open Decode

/-! ## The grammar -/

inductive ScalarText : List Char → Json → Prop where
  | null : ScalarText ['n', 'u', 'l', 'l'] .null
  | bool (b : Bool) :
      ScalarText (if b then ['t', 'r', 'u', 'e'] else ['f', 'a', 'l', 's', 'e']) (.bool b)
  | number {n : Numeral} {x : Number} (h : n.number? = some x) : ScalarText n.text (.number x)
  | string {t cs : List Char} (h : Characters t cs) :
      ScalarText ('"' :: (t ++ ['"'])) (.string (String.ofList cs))

inductive EntryText (inner : List Char → Json → Prop) : List Char → String × Json → Prop where
  | mk {key cs before after t : List Char} {v : Json} (hk : Characters key cs)
      (hb : Blank before) (ha : Blank after) (hv : inner t v) :
      EntryText inner ('"' :: (key ++ '"' :: (before ++ ':' :: (after ++ t)))) (String.ofList cs, v)

inductive NestedText (inner : List Char → Json → Prop) : List Char → Json → Prop where
  | scalar {t : List Char} {v : Json} (h : ScalarText t v) : NestedText inner t v
  | array {body : List Char} {items : List Json} (h : Parts inner body items) :
      NestedText inner ('[' :: (body ++ [']'])) (.array items)
  | object {body : List Char} {members : List (String × Json)}
      (h : Parts (EntryText inner) body members) :
      NestedText inner ('{' :: (body ++ ['}'])) (.object (Entries.ofList members))

/-- The texts of the values with at most so many levels of arrays and objects. -/
def ValueText : Nat → List Char → Json → Prop
  | 0 => ScalarText
  | levels + 1 => NestedText (ValueText levels)

/-- A text is that of one value, but for white space around it. -/
def IsText (levels : Nat) (t : List Char) (v : Json) : Prop :=
  ∃ before u after, t = before ++ (u ++ after) ∧ Blank before ∧ Blank after ∧ ValueText levels u v

/-! ## Ends of a text -/

theorem startsNumber_text (n : Numeral) :
    ∃ c cs, n.text = c :: cs ∧ startsNumber c = true := by
  obtain ⟨d, ds, hw, hd⟩ := n.isWhole.eq_cons
  unfold Numeral.text
  cases n.negative with
  | true => exact ⟨'-', _, rfl, by decide⟩
  | false =>
      rw [hw]
      exact ⟨d, _, rfl, by simp [startsNumber, hd]⟩

theorem ne_of_startsNumber {c d : Char} (hc : startsNumber c = true)
    (hd : startsNumber d = false) : c ≠ d := by
  rintro rfl
  rw [hc] at hd
  cases hd

theorem isSpace_of_startsNumber {c : Char} (hc : startsNumber c = true) : isSpace c = false := by
  have hne := fun {d : Char} (hd : startsNumber d = false) => ne_of_startsNumber hc hd
  simp only [isSpace, Bool.or_eq_false_iff, decide_eq_false_iff_not]
  exact ⟨⟨⟨hne (by decide), hne (by decide)⟩, hne (by decide)⟩, hne (by decide)⟩

/-- A number is told by its first character. -/
theorem Numeral.reads_scalar {n : Numeral} {x : Number} {c : Char} {cs rest : List Char}
    (h : n.number? = some x) (he : EndsNumeral n.fraction n.exponent rest)
    (ht : n.text = c :: cs) (hc : startsNumber c = true) :
    Reads (scalar c) (c :: (cs ++ rest)) (.number x) rest := by
  have hne := fun {d : Char} (hd : startsNumber d = false) => ne_of_startsNumber hc hd
  have hr := n.reads h he
  rw [ht] at hr
  unfold scalar
  rw [if_neg (hne (by decide)), if_neg (hne (by decide)), if_neg (hne (by decide)),
    if_neg (hne (by decide)), if_pos hc]
  apply hr.bind
  exact Reads.pure (Json.number x) rest

/-- A scalar is told by its first character.  What follows it matters only if it is a number. -/
theorem ScalarText.reads {t : List Char} {v : Json} (h : ScalarText t v) :
    ∃ c cs, t = c :: cs ∧ isSpace c = false ∧ c ≠ '[' ∧ c ≠ ']' ∧ c ≠ '{' ∧
      ∀ rest, (EndsValue rest ∨ ∀ x, v ≠ .number x) →
        Reads (scalar c) (c :: (cs ++ rest)) v rest := by
  cases h with
  | null =>
      refine ⟨'n', ['u', 'l', 'l'], rfl, by decide, by decide, by decide, by decide, ?_⟩
      intro rest _
      unfold scalar
      rw [if_pos rfl]
      apply Reads.advance
      apply (reads_word ['u', 'l', 'l'] rest).bind
      exact Reads.pure Json.null rest
  | bool b =>
      cases b with
      | true =>
          refine ⟨'t', ['r', 'u', 'e'], rfl, by decide, by decide, by decide, by decide, ?_⟩
          intro rest _
          unfold scalar
          rw [if_neg (by decide), if_pos rfl]
          apply Reads.advance
          apply (reads_word ['r', 'u', 'e'] rest).bind
          exact Reads.pure (Json.bool true) rest
      | false =>
          refine ⟨'f', ['a', 'l', 's', 'e'], rfl, by decide, by decide, by decide, by decide, ?_⟩
          intro rest _
          unfold scalar
          rw [if_neg (by decide), if_neg (by decide), if_pos rfl]
          apply Reads.advance
          apply (reads_word ['a', 'l', 's', 'e'] rest).bind
          exact Reads.pure (Json.bool false) rest
  | @number n x h =>
      obtain ⟨c, cs, ht, hc⟩ := startsNumber_text n
      have hne := fun {d : Char} (hd : startsNumber d = false) => ne_of_startsNumber hc hd
      refine ⟨c, cs, ht, isSpace_of_startsNumber hc, hne (by decide), hne (by decide),
        hne (by decide), ?_⟩
      intro rest he
      have hend := he.resolve_right fun hx => hx x rfl
      exact Numeral.reads_scalar h (hend.endsNumeral _ _) ht hc
  | @string t cs h =>
      refine ⟨'"', t ++ ['"'], rfl, by decide, by decide, by decide, by decide, ?_⟩
      intro rest _
      have hr := h.reads_stringBody rest
      unfold scalar
      rw [if_neg (by decide), if_neg (by decide), if_neg (by decide), if_pos rfl,
        List.append_assoc]
      apply Reads.advance
      apply hr.bind
      exact Reads.pure (Json.string (String.ofList cs)) rest

theorem ValueText.opens {levels : Nat} {t : List Char} {v : Json} (h : ValueText levels t v) :
    Opens t := by
  have scalar {t : List Char} (h : ScalarText t v) : Opens t := by
    obtain ⟨c, cs, ht, hs, -, hb, -, -⟩ := h.reads
    exact ⟨c, cs, ht, hs, hb⟩
  cases levels with
  | zero => exact scalar h
  | succ levels =>
      cases h with
      | scalar h => exact scalar h
      | array h => exact ⟨'[', _, rfl, by decide, by decide⟩
      | object h => exact ⟨'{', _, rfl, by decide, by decide⟩

def Closes (t : List Char) : Prop :=
  ∃ cs c, t = cs ++ [c] ∧ Text.isBlank c = false

theorem Closes.append {t : List Char} (h : Closes t) (front : List Char) :
    Closes (front ++ t) := by
  obtain ⟨cs, c, rfl, hc⟩ := h
  exact ⟨front ++ cs, c, by simp, hc⟩

theorem isBlank_of_isAsciiDigit {c : Char} (h : Text.isAsciiDigit c = true) :
    Text.isBlank c = false := by
  simp only [Text.isAsciiDigit, Bool.and_eq_true, decide_eq_true_eq] at h
  simp only [Text.isBlank, Bool.or_eq_false_iff, Bool.and_eq_false_iff, decide_eq_false_iff_not,
    beq_eq_false_iff_ne]
  omega

theorem closes_digits {ds : List Char} (hd : IsDigits ds) : Closes ds := by
  rcases List.eq_nil_or_concat ds with h | ⟨cs, c, rfl⟩
  · exact absurd h hd.1
  · exact ⟨cs, c, by simp, isBlank_of_isAsciiDigit (hd.2 c (by simp))⟩

/-- A numeral ends with a digit of its last part. -/
theorem closes_text (n : Numeral) : Closes n.text := by
  have exponent (e : Exponent) : Closes e.text := by
    have h := (closes_digits e.isDigits).append (e.letter :: e.sign.toList)
    exact h
  have last : Closes (n.whole ++ fractionText n.fraction n.exponent) := by
    cases hf : n.fraction with
    | none =>
        cases n.exponent with
        | none => simpa [fractionText, exponentText] using closes_digits n.isWhole
        | some e => exact (exponent e).append n.whole
    | some ds =>
        cases n.exponent with
        | none =>
            have h := (closes_digits (n.isFraction ds hf)).append (n.whole ++ ['.'])
            simpa [fractionText, exponentText] using h
        | some e =>
            have h := (exponent e).append (n.whole ++ '.' :: ds)
            simpa [fractionText, exponentText] using h
  exact last.append _

theorem ScalarText.closes {t : List Char} {v : Json} (h : ScalarText t v) : Closes t := by
  cases h with
  | null => exact ⟨['n', 'u', 'l'], 'l', rfl, by decide⟩
  | bool b =>
      cases b with
      | true => exact ⟨['t', 'r', 'u'], 'e', rfl, by decide⟩
      | false => exact ⟨['f', 'a', 'l', 's'], 'e', rfl, by decide⟩
  | @number n x h => exact closes_text n
  | @string t cs h => exact ⟨'"' :: t, '"', rfl, by decide⟩

theorem ValueText.closes {levels : Nat} {t : List Char} {v : Json} (h : ValueText levels t v) :
    Closes t := by
  cases levels with
  | zero => exact ScalarText.closes h
  | succ levels =>
      cases h with
      | scalar h => exact h.closes
      | @array body items h => exact ⟨'[' :: body, ']', rfl, by decide⟩
      | @object body members h => exact ⟨'{' :: body, '}', rfl, by decide⟩

/-! ## Reading a text -/

theorem EntryText.readsPart {inner : List Char → Json → Prop} {step : Decode Json}
    (hs : ∀ t v, inner t v → ReadsValue step t v) {t : List Char} {m : String × Json}
    (h : EntryText inner t m) : ReadsPart (fun _ => step) t m := by
  cases h with
  | @mk key cs before after t v hk hb ha hv =>
      refine ⟨key ++ ['"'], before, after, t, by simp, hb, ha, ?_, hs t v hv⟩
      intro rest
      have hr := hk.reads_stringBody rest
      rw [List.append_assoc]
      exact hr

theorem welcome_anyKey (seen keys : List String) : Welcome anyKey seen keys := by
  induction keys generalizing seen with
  | nil => trivial
  | cons key keys ih => exact ⟨rfl, ih (key :: seen)⟩

theorem reads_value_of_scalar (levels : Nat) {gap cs rest : List Char} {c : Char} {v : Json}
    (hg : Blank gap) (hs : isSpace c = false) (hc : c ≠ '[') (hb : c ≠ '{')
    (h : Reads (scalar c) (c :: cs) v rest) :
    Reads (value (levels + 1)) (gap ++ c :: cs) v rest := by
  unfold value
  apply Reads.placed
  apply Reads.token hg hs
  simp only
  rw [if_neg hc, if_neg hb]
  exact h

theorem ScalarText.readsAny {t : List Char} {v : Json} (h : ScalarText t v) (levels : Nat)
    {gap rest : List Char} (hg : Blank gap) (he : EndsValue rest ∨ ∀ x, v ≠ .number x) :
    Reads (value (levels + 1)) (gap ++ (t ++ rest)) v rest := by
  obtain ⟨c, cs, rfl, hs, hc, -, hb, hr⟩ := h.reads
  exact reads_value_of_scalar levels hg hs hc hb (hr rest he)

/-- A text is read as its value, whatever follows it, if the reader allows for one level more than
the text may have; only behind a number not everything may follow. -/
theorem ValueText.readsAny {n levels : Nat} {t : List Char} {v : Json} (h : ValueText n t v)
    (hn : n < levels) {gap rest : List Char} (hg : Blank gap)
    (he : EndsValue rest ∨ ∀ x, v ≠ .number x) :
    Reads (value levels) (gap ++ (t ++ rest)) v rest := by
  -- A container takes one level from the reader and one from the text.
  induction n generalizing levels t v gap rest with
  | zero =>
      obtain ⟨levels, rfl⟩ : ∃ m, levels = m + 1 := ⟨levels - 1, by omega⟩
      exact ScalarText.readsAny h levels hg he
  | succ n ih =>
      obtain ⟨levels, rfl⟩ : ∃ m, levels = m + 1 := ⟨levels - 1, by omega⟩
      have inner : ∀ t v, ValueText n t v → ReadsValue (value levels) t v :=
        fun t v h gap rest hg he => ih h (by omega) hg (.inl he)
      have hl : levels ≠ 0 := by omega
      cases h with
      | scalar h => exact h.readsAny levels hg he
      | @array body items h =>
          have hparts : Parts (ReadsItem fun _ => value levels) body items :=
            h.imp fun t v hv => ⟨hv.opens, fun _ => inner t v hv⟩
          have hbody : '[' :: (body ++ [']']) ++ rest = '[' :: (body ++ ']' :: rest) := by simp
          rw [hbody]
          unfold value
          apply Reads.placed
          apply Reads.token hg (by decide)
          simp only [if_true]
          apply (reads_inArray hl (reads_allItems_of_parts hparts rest)).bind
          exact Reads.pure _ rest
      | @object body members h =>
          have hparts : Parts (ReadsPart fun _ => value levels) body members :=
            h.imp fun t m hm => hm.readsPart inner
          have hbody : '{' :: (body ++ ['}']) ++ rest = '{' :: (body ++ '}' :: rest) := by simp
          rw [hbody]
          unfold value
          apply Reads.placed
          apply Reads.token hg (by decide)
          simp only
          rw [if_neg (by decide), if_pos trivial]
          apply (reads_inObject hl
            (reads_allMembers_of_parts hparts rest (welcome_anyKey _ _))).bind
          exact Reads.pure _ rest

theorem ValueText.readsValue {n levels : Nat} {t : List Char} {v : Json} (h : ValueText n t v)
    (hn : n < levels) : ReadsValue (value levels) t v :=
  fun _ _ hg he => h.readsAny hn hg (.inl he)

theorem endsValue_of_blank {gap : List Char} (hg : Blank gap) : EndsValue gap := by
  intro c hc
  exact .inl (hg c (List.mem_of_mem_head? hc))

/-- White space around a value does not matter. -/
theorem IsText.ofText {levels : Nat} {t : List Char} {v : Json} (h : IsText levels t v)
    (hl : levels < depthLimit) : ofText (String.ofList t) = .ok v := by
  obtain ⟨before, u, after, rfl, hb, ha, hu⟩ := h
  unfold Json.ofText
  rw [String.toList_ofList]
  exact (hu.readsValue hl before after hb (endsValue_of_blank ha)).run

/-! ## Lists of texts -/

/-- Texts with commas between them, whatever white space each has around it. -/
theorem parts_joinWith {levels : Nat} {ts : List (List Char)} {vs : List Json}
    (h : List.Forall₂ (IsText levels) ts vs) :
    Parts (ValueText levels) (Text.joinWith [','] ts) vs := by
  induction h with
  | nil => exact .nil blank_nil
  | @cons t v ts vs head rest ih =>
      obtain ⟨before, u, after, rfl, hb, ha, hu⟩ := head
      cases rest with
      | nil => exact .cons hb hu (.nil ha)
      | @cons t' v' ts vs head' rest =>
          have joined : Text.joinWith [','] ((before ++ (u ++ after)) :: t' :: ts) =
              before ++ (u ++ (after ++ ',' :: Text.joinWith [','] (t' :: ts))) := by
            simp [Text.joinWith]
          rw [joined]
          exact .cons hb hu (ih.more ha)

/-- Texts in brackets, with commas between them, are the text of an array. -/
theorem isText_array {levels : Nat} {ts : List (List Char)} {vs : List Json}
    (h : List.Forall₂ (IsText levels) ts vs) :
    IsText (levels + 1) ('[' :: (Text.joinWith [','] ts ++ [']'])) (.array vs) :=
  ⟨[], _, [], by simp, blank_nil, blank_nil, NestedText.array (parts_joinWith h)⟩

end FormRules.Json
