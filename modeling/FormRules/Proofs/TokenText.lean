import FormRules.Proofs.Normalization
import FormRules.Proofs.Pieces
import FormRules.Proofs.Trimming

/-!
# Texts of tokens

Which atoms are read as a token, said without the reading: the name stands before
the first colon with blanks around it, and all that follows the colon is the
parameter text, whose pieces are the parameters.  The text of a token is one of
its atoms, colons, commas and blanks of the parameters included.
-/

namespace FormRules.RuleToken

/-! ## Names -/

/-- A name that is read as it is written: not empty, without blanks at its ends and without a
colon. -/
structure IsName (name : String) : Prop where
  filled : name ≠ ""
  trimmed : Text.IsTrimmed name.toList
  plain : ':' ∉ name.toList

theorem isName_of_ofName? {name : String} {d : Directive}
    (known : Directive.ofName? name = some d) : IsName name := by
  have all : ∀ e ∈ Directive.names,
      e.1 ≠ "" ∧ Text.IsTrimmed e.1.toList ∧ ':' ∉ e.1.toList := by decide
  obtain ⟨filled, trimmed, plain⟩ := all _ (Directive.mem_names_of_ofName? known)
  exact ⟨filled, trimmed, plain⟩

/-! ## Parameters -/

/-- The parameters are those in the text behind the colon, as in every token that is read. -/
def IsDivided (t : RuleToken) : Prop :=
  t.parameters = parametersIn t.raw

theorem isDivided_of (name : String) (raw : Option String) : (of name raw).IsDivided := rfl

theorem isDivided_iff {t : RuleToken} : t.IsDivided ↔
    (∀ raw, t.raw = some raw → Text.SplitsInto ',' raw t.parameters) ∧
      (t.raw = none → t.parameters = []) := by
  unfold IsDivided
  cases raw : t.raw with
  | none => simp [parametersIn]
  | some text =>
      simp only [parametersIn, reduceCtorEq, false_implies, and_true, Option.some.injEq]
      constructor
      · rintro divided _ rfl
        rw [divided]
        exact Text.splitsInto_piecesOf ',' text
      · intro split
        exact (split text rfl).eq_piecesOf

def rawOf : List String → Option String
  | [] => none
  | parameters => some (Text.joinTexts "," parameters)

theorem parametersIn_rawOf {parameters : List String} (free : ∀ p ∈ parameters, ',' ∉ p.toList) :
    parametersIn (rawOf parameters) = parameters := by
  cases parameters with
  | nil => rfl
  | cons p rest => exact Text.piecesOf_joinTexts (List.cons_ne_nil p rest) free

theorem IsDivided.comma_not_mem {t : RuleToken} (divided : t.IsDivided) {p : String}
    (h : p ∈ t.parameters) : ',' ∉ p.toList := by
  obtain ⟨split, bare⟩ := isDivided_iff.1 divided
  cases raw : t.raw with
  | none =>
      rw [bare raw] at h
      cases h
  | some text => exact (split text raw).free p h

/-! ## Atoms -/

/-- The part of an atom that has room for the name: what stands before the first colon, or all of
it if there is none. -/
def namePart (atom : List Char) : List Char :=
  atom.takeWhile (· ≠ ':')

theorem colon_not_mem_namePart (atom : List Char) : ':' ∉ namePart atom := by
  intro mem
  simpa using List.mem_takeWhile_imp mem

theorem namePart_append {head : List Char} (plain : ':' ∉ head) (rest : List Char) :
    namePart (head ++ rest) = head ++ namePart rest := by
  refine List.takeWhile_append_of_pos fun c mem => ?_
  simpa using ne_of_mem_of_not_mem mem plain

theorem namePart_of_not_mem {atom : List Char} (plain : ':' ∉ atom) : namePart atom = atom := by
  simpa [namePart] using namePart_append plain []

theorem namePart_append_colon {head : List Char} (plain : ':' ∉ head) (raw : List Char) :
    namePart (head ++ ':' :: raw) = head := by
  rw [namePart_append plain]
  simp [namePart]

def rawPart? (atom : List Char) : Option String :=
  (Text.splitFirst ':' atom).map fun parts => String.ofList parts.2

theorem rawPart?_eq_some_iff {atom : List Char} {raw : String} :
    rawPart? atom = some raw ↔ atom = namePart atom ++ ':' :: raw.toList := by
  constructor
  · intro found
    obtain ⟨⟨head, behind⟩, split, rfl⟩ := Option.map_eq_some_iff.1 found
    obtain ⟨rfl, plain⟩ := Text.eq_of_splitFirst split
    rw [namePart_append_colon plain, String.toList_ofList]
  · intro same
    have split := Text.splitFirst_append (colon_not_mem_namePart atom) raw.toList
    rw [← same] at split
    rw [rawPart?, split, Option.map_some, String.ofList_toList]

/-- An atom has a token if a name is left of its part for one. -/
theorem ofChars?_eq (atom : List Char) :
    ofChars? atom =
      if Text.trim (namePart atom) = [] then none
      else some (of (String.ofList (Text.trim (namePart atom))) (rawPart? atom)) := by
  unfold ofChars? rawPart?
  cases split : Text.splitFirst ':' atom with
  | none =>
      rw [namePart_of_not_mem (Text.splitFirst_eq_none_iff.1 split)]
      simp
  | some parts =>
      obtain ⟨head, raw⟩ := parts
      obtain ⟨rfl, plain⟩ := Text.eq_of_splitFirst split
      rw [namePart_append_colon plain]
      simp

/-- Blanks in front of an atom are of no account, before it is divided as well as after. -/
theorem ofChars?_append_of_allBlank {blanks : List Char} (blank : Text.allBlank blanks = true)
    (atom : List Char) : ofChars? (blanks ++ atom) = ofChars? atom := by
  have part : namePart (blanks ++ atom) = blanks ++ namePart atom :=
    namePart_append (Text.not_mem_of_allBlank blank rfl) atom
  have name : Text.trim (namePart (blanks ++ atom)) = Text.trim (namePart atom) := by
    rw [part]
    simpa using Text.trim_padded blank (Eq.refl (Text.allBlank [])) (namePart atom)
  have raw : rawPart? (blanks ++ atom) = rawPart? atom := Option.ext fun raw => by
    rw [rawPart?_eq_some_iff, rawPart?_eq_some_iff, part, List.append_assoc,
      List.append_cancel_left_eq]
  rw [ofChars?_eq, ofChars?_eq, name, raw]

theorem parse?_eq_none_iff {atom : String} :
    parse? atom = none ↔ Text.allBlank (namePart atom.toList) = true := by
  rw [parse?, ofChars?_eq, ← Text.trim_eq_nil_iff]
  simp

/-- The ways of writing a token.  Blanks may stand around the name, in front of the first colon; the
text behind this colon is as it is and divided at its commas, and without a colon there is none. -/
structure IsWrittenAs (t : RuleToken) (atom : String) : Prop where
  isName : IsName t.name
  padded : ∃ before after, Text.allBlank before = true ∧ Text.allBlank after = true ∧
    namePart atom.toList = before ++ (t.name.toList ++ after)
  behind : ∀ raw, t.raw = some raw ↔ atom.toList = namePart atom.toList ++ ':' :: raw.toList
  divided : ∀ raw, t.raw = some raw → Text.SplitsInto ',' raw t.parameters
  bare : t.raw = none → t.parameters = []

theorem IsWrittenAs.isDivided {atom : String} {t : RuleToken} (written : t.IsWrittenAs atom) :
    t.IsDivided :=
  isDivided_iff.2 ⟨written.divided, written.bare⟩

theorem parse?_eq_some_iff {atom : String} {t : RuleToken} :
    parse? atom = some t ↔ t.IsWrittenAs atom := by
  rw [parse?, ofChars?_eq]
  constructor
  · intro read
    split at read
    · cases read
    · rename_i filled
      obtain rfl := Option.some.inj read
      obtain ⟨divided, bare⟩ := isDivided_iff.1 (isDivided_of
        (String.ofList (Text.trim (namePart atom.toList))) (rawPart? atom.toList))
      refine ⟨⟨by simpa [of] using filled, ?_, ?_⟩, ?_, fun raw => rawPart?_eq_some_iff, divided,
        bare⟩
      · rw [of, String.toList_ofList]
        exact Text.isTrimmed_trim _
      · rw [of, String.toList_ofList]
        exact fun mem => colon_not_mem_namePart _ (Text.mem_of_mem_trim mem)
      · rw [of, String.toList_ofList]
        exact Text.exists_padding _
  · intro written
    -- Trimming takes off just the blanks around the name, as the name has none at its own ends.
    have name : Text.trim (namePart atom.toList) = t.name.toList :=
      (Text.trim_eq_iff written.isName.trimmed).2 written.padded
    have raw : rawPart? atom.toList = t.raw := Option.ext fun raw =>
      rawPart?_eq_some_iff.trans (written.behind raw).symm
    have filled : t.name.toList ≠ [] := by simpa using written.isName.filled
    rw [name, raw, if_neg filled, String.ofList_toList, of, ← written.isDivided]

/-! ## Texts -/

theorem isWrittenAs_text {t : RuleToken} (h : IsName t.name) (divided : t.IsDivided) :
    t.IsWrittenAs t.text := by
  obtain ⟨name, parameters, raw⟩ := t
  obtain ⟨split, bare⟩ := isDivided_iff.1 divided
  cases raw with
  | none =>
      have part : namePart name.toList = name.toList := namePart_of_not_mem h.plain
      refine ⟨h, ⟨[], [], rfl, rfl, ?_⟩, fun raw => ?_, split, bare⟩
      · simpa [text] using part
      · simp [text, part]
  | some raw =>
      have chars : (name ++ ":" ++ raw).toList = name.toList ++ ':' :: raw.toList := by simp
      have part : namePart (name ++ ":" ++ raw).toList = name.toList := by
        rw [chars, namePart_append_colon h.plain]
      refine ⟨h, ⟨[], [], rfl, rfl, ?_⟩, fun behind => ?_, split, bare⟩
      · simpa [text] using part
      · rw [text, part, chars]
        simp [String.toList_inj]

theorem parse?_text {t : RuleToken} (h : IsName t.name) (divided : t.IsDivided) :
    parse? t.text = some t :=
  parse?_eq_some_iff.2 (isWrittenAs_text h divided)

/-! ## Reading and printing -/

/-- Tokens are stable under printing.  An atom is read as the token that it is a way of writing: a
name that could stand by itself, with blanks around it, and all that stands behind the first colon.
The parameters are the pieces of this text, one at least, or there are none without it; and the text
of the token is read as the same token again.  An atom has no token just if the part for its name is
blank. -/
theorem stable_under_printing (atom : String) :
    (∀ t, parse? atom = some t ↔ t.IsWrittenAs atom) ∧
    (∀ t, parse? atom = some t →
      (∀ raw, t.raw = some raw → Text.SplitsInto ',' raw t.parameters) ∧
      (t.raw = none → t.parameters = []) ∧
      parse? t.text = some t) ∧
    (parse? atom = none ↔ Text.allBlank (namePart atom.toList) = true) := by
  refine ⟨fun t => parse?_eq_some_iff, fun t read => ?_, parse?_eq_none_iff⟩
  have written : t.IsWrittenAs atom := parse?_eq_some_iff.1 read
  exact ⟨written.divided, written.bare, parse?_text written.isName written.isDivided⟩

/-- A list of values in which a colon, empty values and a line end are kept, while the wide blanks
around its name go. -/
theorem spaced_list_stable_under_printing :
    let atom := "\u3000in\u2003: a,:b,, \n"
    let t : RuleToken := ⟨"in", [" a", ":b", "", " \n"], some " a,:b,, \n"⟩
    parse? atom = some t ∧ t.IsWrittenAs atom ∧ t.raw = some " a,:b,, \n" ∧
      Text.SplitsInto ',' " a,:b,, \n" t.parameters ∧ t.text = "in: a,:b,, \n" ∧
      parse? t.text = some t := by
  intro atom t
  have read : parse? atom = some t := by decide
  obtain ⟨written, kept, -⟩ := stable_under_printing atom
  obtain ⟨split, -, again⟩ := kept t read
  exact ⟨read, (written t).1 read, rfl, split _ rfl, by decide, again⟩

end FormRules.RuleToken
