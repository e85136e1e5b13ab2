import FormRules.Pattern.Regex
import FormRules.Proofs.Pieces

/-!
# Delimiters of patterns

A pattern loses its delimiters if its first character is one of them, comes again,
and has only letters behind its last occurrence; any other pattern stays as it is.
The same is found by byte offsets: what the delimiters enclose and what stands
behind them is cut out of the text at their offsets, and no cut fails.
-/

namespace FormRules

/-! ## Byte offsets -/

namespace Text

def byteCount : List Char → Nat
  | [] => 0
  | c :: cs => c.utf8Size + byteCount cs

/-- Split a text at a byte offset; `none` if that lies inside of a character or behind the text. -/
def splitAtByte? : Nat → List Char → Option (List Char × List Char)
  | 0, cs => some ([], cs)
  | _ + 1, [] => none
  | n + 1, c :: cs =>
    if c.utf8Size ≤ n + 1 then
      (splitAtByte? (n + 1 - c.utf8Size) cs).map fun (front, back) => (c :: front, back)
    else none

def slice? (start stop : Nat) (cs : List Char) : Option (List Char) := do
  let (front, _) ← splitAtByte? stop cs
  let (_, part) ← splitAtByte? start front
  return part

def lastOffset? (c : Char) : List Char → Option Nat
  | [] => none
  | d :: ds =>
    match lastOffset? c ds with
    | some n => some (d.utf8Size + n)
    | none => if d = c then some 0 else none

theorem byteCount_append (xs ys : List Char) :
    byteCount (xs ++ ys) = byteCount xs + byteCount ys := by
  induction xs with
  | nil => simp [byteCount]
  | cons c cs ih => simp [byteCount, ih, Nat.add_assoc]

theorem splitAtByte?_append (xs ys : List Char) :
    splitAtByte? (byteCount xs) (xs ++ ys) = some (xs, ys) := by
  induction xs with
  | nil => simp [byteCount, splitAtByte?]
  | cons c cs ih =>
      have positive := c.utf8Size_pos
      obtain ⟨n, count⟩ : ∃ n, byteCount (c :: cs) = n + 1 :=
        ⟨byteCount (c :: cs) - 1, by simp [byteCount]; omega⟩
      have own : c.utf8Size ≤ n + 1 := by
        rw [← count]
        simp [byteCount]
      have rest : n + 1 - c.utf8Size = byteCount cs := by
        rw [← count]
        simp [byteCount]
      rw [count, List.cons_append, splitAtByte?, if_pos own, rest, ih]
      rfl

/-- A text can be cut at both ends of any of its parts. -/
theorem slice?_append (xs ys zs : List Char) :
    slice? (byteCount xs) (byteCount (xs ++ ys)) (xs ++ ys ++ zs) = some ys := by
  unfold slice?
  rw [splitAtByte?_append]
  simp [splitAtByte?_append]

theorem lastOffset?_eq (c : Char) (cs : List Char) :
    lastOffset? c cs = (splitLast c cs).map fun parts => byteCount parts.1 := by
  induction cs with
  | nil => rfl
  | cons d ds ih =>
      unfold lastOffset? splitLast
      rw [ih]
      cases splitLast c ds with
      | some parts => simp [byteCount]
      | none => by_cases same : d = c <;> simp [same, byteCount]

end Text

namespace Pattern

open Text

/-! ## Delimited texts -/

/-- A text stands between two equal delimiters, with nothing but letters behind the second one. -/
structure Delimits (raw : String) (delimiter : Char) (body modifiers : String) : Prop where
  known : delimiter ∈ ['/', '#', '~', '!', '@', '%']
  parts : raw = delimiter.toString ++ body ++ delimiter.toString ++ modifiers
  letters : ∀ c ∈ modifiers.toList, isAsciiLetter c = true

theorem not_letter_of_delimiter {c : Char} (known : c ∈ delimiters) : isAsciiLetter c = false := by
  have all : delimiters.all (fun c => !isAsciiLetter c) = true := by decide
  simpa using List.all_eq_true.1 all c known

theorem split?_eq_some_iff {cs body modifiers : List Char} :
    split? cs = some (body, modifiers) ↔
      ∃ delimiter ∈ delimiters, cs = delimiter :: (body ++ delimiter :: modifiers) ∧
        ∀ c ∈ modifiers, isAsciiLetter c = true := by
  constructor
  · intro h
    cases cs with
    | nil => cases h
    | cons delimiter rest =>
        simp only [split?, List.contains_eq_mem, decide_eq_true_eq] at h
        split at h
        · rename_i known
          cases split : splitLast delimiter rest with
          | none => simp [split] at h
          | some parts =>
              obtain ⟨same, -⟩ := eq_of_splitLast split
              simp only [split] at h
              split at h
              · rename_i letters
                obtain ⟨rfl, rfl⟩ := Prod.mk.inj (Option.some.inj h)
                exact ⟨delimiter, known, by rw [same], by simpa using letters⟩
              · cases h
        · cases h
  · rintro ⟨delimiter, known, rfl, letters⟩
    -- A delimiter is no letter, so the second one is the last.
    have free : delimiter ∉ modifiers := by
      intro member
      have letter := letters delimiter member
      rw [not_letter_of_delimiter known] at letter
      cases letter
    have split : splitLast delimiter (body ++ delimiter :: modifiers) = some (body, modifiers) :=
      splitLast_eq_some_iff.2 ⟨rfl, free⟩
    simpa [split?, known, split] using letters

variable {raw body modifiers body' modifiers' : String} {delimiter delimiter' : Char}

theorem delimits_iff : Delimits raw delimiter body modifiers ↔
    delimiter ∈ delimiters ∧
      raw.toList = delimiter :: (body.toList ++ delimiter :: modifiers.toList) ∧
      ∀ c ∈ modifiers.toList, isAsciiLetter c = true := by
  have parts : raw = delimiter.toString ++ body ++ delimiter.toString ++ modifiers ↔
      raw.toList = delimiter :: (body.toList ++ delimiter :: modifiers.toList) := by
    rw [← String.toList_inj]
    simp [Char.toString]
  rw [← parts]
  exact ⟨fun h => ⟨h.known, h.parts, h.letters⟩, fun h => ⟨h.1, h.2.1, h.2.2⟩⟩

theorem Delimits.split? (h : Delimits raw delimiter body modifiers) :
    split? raw.toList = some (body.toList, modifiers.toList) :=
  split?_eq_some_iff.2 ⟨delimiter, delimits_iff.1 h⟩

theorem Delimits.unique (h : Delimits raw delimiter body modifiers)
    (h' : Delimits raw delimiter' body' modifiers') :
    delimiter' = delimiter ∧ body' = body ∧ modifiers' = modifiers := by
  have parts := Option.some.inj (h'.split?.symm.trans h.split?)
  have first := (delimits_iff.1 h').2.1.symm.trans (delimits_iff.1 h).2.1
  exact ⟨(List.cons.inj first).1, String.toList_inj.1 (Prod.mk.inj parts).1,
    String.toList_inj.1 (Prod.mk.inj parts).2⟩

theorem exists_delimits {parts : List Char × List Char}
    (h : Pattern.split? raw.toList = some parts) :
    ∃ delimiter, Delimits raw delimiter (String.ofList parts.1) (String.ofList parts.2) := by
  obtain ⟨delimiter, delimits⟩ := split?_eq_some_iff.1 h
  exact ⟨delimiter, delimits_iff.2 (by simpa using delimits)⟩

/-! ## Cutting by offsets -/

/-- The pattern without its delimiters, cut out of the text at byte offsets; `none` if a cut
fails. -/
def undelimitedByOffsets? (raw : List Char) : Option (List Char) :=
  match raw with
  | [] => some []
  | delimiter :: _ =>
    if delimiters.contains delimiter then
      match (lastOffset? delimiter raw).filter (0 < ·) with
      | some stop => do
        let body ← slice? delimiter.utf8Size stop raw
        let modifiers ← slice? (stop + delimiter.utf8Size) (byteCount raw) raw
        return if modifiers.all isAsciiLetter then withModifiers modifiers body else raw
      | none => some raw
    else some raw

theorem lastOffset?_cons (c : Char) (cs : List Char) :
    (lastOffset? c (c :: cs)).filter (0 < ·) =
      (splitLast c cs).map fun parts => c.utf8Size + byteCount parts.1 := by
  have positive := c.utf8Size_pos
  unfold lastOffset?
  rw [lastOffset?_eq]
  cases splitLast c cs with
  | none => simp
  | some parts =>
      have behind : 0 < c.utf8Size + byteCount parts.1 := by omega
      simp [behind]

/-- No cut fails, and the parts that are cut out are the right ones. -/
theorem undelimitedByOffsets?_eq (raw : List Char) :
    undelimitedByOffsets? raw = some (undelimited raw) := by
  cases raw with
  | nil => rfl
  | cons delimiter rest =>
      simp only [undelimitedByOffsets?, undelimited, Pattern.split?, lastOffset?_cons]
      split
      · cases split : splitLast delimiter rest with
        | none => rfl
        | some parts =>
            obtain ⟨body, modifiers⟩ := parts
            obtain ⟨rfl, -⟩ := eq_of_splitLast split
            have inner : slice? delimiter.utf8Size (delimiter.utf8Size + byteCount body)
                (delimiter :: (body ++ delimiter :: modifiers)) = some body := by
              simpa [byteCount] using slice?_append [delimiter] body (delimiter :: modifiers)
            have outer : slice? (delimiter.utf8Size + byteCount body + delimiter.utf8Size)
                (byteCount (delimiter :: (body ++ delimiter :: modifiers)))
                (delimiter :: (body ++ delimiter :: modifiers)) = some modifiers := by
              simpa [byteCount, byteCount_append, Nat.add_assoc] using
                slice?_append (delimiter :: body ++ [delimiter]) modifiers []
            simp only [Option.map_some, inner, outer, Option.bind_eq_bind, Option.bind_some]
            split <;> rfl
      · rfl

/-! ## Translation -/

theorem withModifiers_eq (modifiers body : List Char) :
    withModifiers modifiers body =
      let flags := modifiers.filter inlineModifiers.contains
      if flags = [] then body else ['(', '?'] ++ flags ++ [')'] ++ body := by
  unfold withModifiers
  cases modifiers.filter inlineModifiers.contains <;> simp

/-- A text between delimiters is its body, with those of its modifiers in front that a pattern can
carry inside, in their order; it stands between delimiters in one way only.  Any other text is left
as it is.  Cut out by byte offsets the pattern is the same, and every cut succeeds. -/
theorem undelimitedText_exact (raw : String) :
    (∀ delimiter body modifiers, Delimits raw delimiter body modifiers →
      (∀ delimiter' body' modifiers', Delimits raw delimiter' body' modifiers' →
        delimiter' = delimiter ∧ body' = body ∧ modifiers' = modifiers) ∧
      let flags := String.ofList (modifiers.toList.filter (['i', 'm', 's', 'x'].contains ·))
      undelimitedText raw = if flags = "" then body else "(?" ++ flags ++ ")" ++ body) ∧
    ((∀ delimiter body modifiers, ¬Delimits raw delimiter body modifiers) →
      undelimitedText raw = raw) ∧
    undelimitedByOffsets? raw.toList = some (undelimitedText raw).toList := by
  refine ⟨fun delimiter body modifiers delimits => ⟨fun _ _ _ => delimits.unique, ?_⟩, ?_, ?_⟩
  · intro flags
    have empty : flags = "" ↔ modifiers.toList.filter inlineModifiers.contains = [] :=
      String.ofList_eq_empty_iff
    have carried : flags.toList = modifiers.toList.filter inlineModifiers.contains :=
      String.toList_ofList
    rw [← String.toList_inj, undelimitedText, String.toList_ofList, undelimited, delimits.split?]
    simp only [withModifiers_eq, empty]
    split
    · rfl
    · rw [String.toList_append, String.toList_append, String.toList_append, carried]
      rfl
  · intro bare
    have whole : Pattern.split? raw.toList = none := by
      cases split : Pattern.split? raw.toList with
      | none => rfl
      | some parts =>
          obtain ⟨delimiter, delimits⟩ := exists_delimits split
          exact absurd delimits (bare _ _ _)
    rw [undelimitedText, undelimited, whole, String.ofList_toList]
  · rw [undelimitedByOffsets?_eq, undelimitedText, String.toList_ofList]

/-- The last slash ends the body although there is one inside, and `g` has no place in a pattern.
With a digit behind its last slash a pattern has no delimiters. -/
theorem path_pattern_undelimited :
    Delimits "/^a/β+$/gi" '/' "^a/β+$" "gi" ∧
    undelimitedText "/^a/β+$/gi" = "(?i)^a/β+$" ∧
    undelimitedByOffsets? "/^a/β+$/gi".toList = some "(?i)^a/β+$".toList ∧
    (∀ delimiter body modifiers, ¬Delimits "/a/β/i1" delimiter body modifiers) ∧
    undelimitedText "/a/β/i1" = "/a/β/i1" := by
  have delimits : Delimits "/^a/β+$/gi" '/' "^a/β+$" "gi" :=
    ⟨by decide, by decide, by simp [isAsciiLetter]⟩
  obtain ⟨exactly, -, offsets⟩ := undelimitedText_exact "/^a/β+$/gi"
  have text : undelimitedText "/^a/β+$/gi" = "(?i)^a/β+$" :=
    (exactly _ _ _ delimits).2.trans (by decide)
  rw [text] at offsets
  have bare : ∀ delimiter body modifiers, ¬Delimits "/a/β/i1" delimiter body modifiers := by
    intro delimiter body modifiers h
    have whole : Pattern.split? "/a/β/i1".toList = none := by decide
    exact absurd (whole.symm.trans h.split?) (Option.some_ne_none _).symm
  exact ⟨delimits, text, offsets, bare, (undelimitedText_exact "/a/β/i1").2.1 bare⟩

end Pattern

end FormRules
