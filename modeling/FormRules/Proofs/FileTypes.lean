import FormRules.Proofs.ListedValues

/-!
# Extensions of files

A list of types lets a file pass whose name has one of them as its extension, in
any case.  A file without an extension passes as well where an entry of the list
is blank, as if it had the empty extension.
-/

namespace FormRules

/-! ## Extensions -/

namespace FileHandle

/-- The name of a file has an extension: it ends in a dot and a text without a dot, and there is
text on both sides of that dot. -/
def HasExtension (f : FileHandle) (ext : String) : Prop :=
  ∃ stem, f.name = stem ++ "." ++ ext ∧ stem ≠ "" ∧ ext ≠ "" ∧ '.' ∉ ext.toList

variable {f : FileHandle} {ext : String}

theorem hasExtension_iff : f.HasExtension ext ↔
    ∃ stem, Text.splitLast '.' f.name.toList = some (stem, ext.toList) ∧ stem ≠ [] ∧ ext ≠ "" := by
  simp only [Text.splitLast_eq_some_iff]
  constructor
  · rintro ⟨stem, named, filled, given, plain⟩
    exact ⟨stem.toList, ⟨by simp [named], plain⟩, by simpa using filled, given⟩
  · rintro ⟨stem, ⟨named, plain⟩, filled, given⟩
    exact ⟨String.ofList stem, by simp [← String.toList_inj, named], by simpa using filled, given,
      plain⟩

theorem extension?_of_hasExtension (has : f.HasExtension ext) :
    f.extension? = some (Text.lowerAsciiText ext) := by
  obtain ⟨stem, split, filled, given⟩ := hasExtension_iff.1 has
  have tail : ext.toList ≠ [] := by simpa using given
  simp [extension?, split, filled, tail, Text.lowerAsciiText]

theorem extension?_eq_none_iff : f.extension? = none ↔ ∀ ext, ¬f.HasExtension ext := by
  constructor
  · intro without ext has
    rw [extension?_of_hasExtension has] at without
    cases without
  · intro without
    unfold extension?
    cases split : Text.splitLast '.' f.name.toList with
    | none => rfl
    | some parts =>
        obtain ⟨stem, tail⟩ := parts
        by_cases filled : stem = [] ∨ tail = []
        · rcases filled with rfl | rfl <;> simp
        · have has : f.HasExtension (String.ofList tail) :=
            hasExtension_iff.2 ⟨stem, by simpa using split, by grind, by simpa using by grind⟩
          exact absurd has (without _)

end FileHandle

/-! ## Lists of types -/

theorem Text.lowerAsciiText_eq_empty_iff {s : String} : lowerAsciiText s = "" ↔ s = "" := by
  simp [lowerAsciiText]

/-- A file is of a listed type if its extension is, and one without an extension if an entry of the
list is blank. -/
theorem FileHandle.extension_listed_iff (f : FileHandle) (types : List String) :
    (types.map fun t => Text.lowerAsciiText (Text.trimText t)).contains (f.extension?.getD "") =
        true ↔
      (∃ ext, f.HasExtension ext ∧
        ∃ t ∈ types, Text.lowerAsciiText (Text.trimText t) = Text.lowerAsciiText ext) ∨
      (∀ ext, ¬f.HasExtension ext) ∧ ∃ t ∈ types, Text.trimText t = "" := by
  rw [List.contains_iff_mem, List.mem_map]
  by_cases has : ∃ ext, f.HasExtension ext
  · -- A name has one extension, so it does not matter by which one an entry is found.
    obtain ⟨ext, has⟩ := has
    have only (other : String) (another : f.HasExtension other) :
        Text.lowerAsciiText other = Text.lowerAsciiText ext := by
      have same := (extension?_of_hasExtension another).symm.trans (extension?_of_hasExtension has)
      exact Option.some.inj same
    rw [extension?_of_hasExtension has, Option.getD_some]
    constructor
    · rintro listed
      exact .inl ⟨ext, has, listed⟩
    · rintro (⟨other, another, t, listed, same⟩ | ⟨without, -⟩)
      · exact ⟨t, listed, same.trans (only other another)⟩
      · exact absurd has (without ext)
  · have without : ∀ ext, ¬f.HasExtension ext := not_exists.1 has
    rw [extension?_eq_none_iff.2 without, Option.getD_none]
    simp only [Text.lowerAsciiText_eq_empty_iff]
    constructor
    · exact fun listed => .inr ⟨without, listed⟩
    · rintro (⟨ext, has, -⟩ | ⟨-, listed⟩)
      · exact absurd has (without ext)
      · exact listed

/-- A list of types lets a file pass if its name has an extension that equals an entry of the list,
without the blanks around this and whatever the case of the letters; a file without an extension
passes if an entry is blank.  No other file passes.  In a field this comes on top of what the other
constraints demand, and a rule text lists the pieces between its commas. -/
theorem FieldRule.mimes_by_extension (now : DateTime) (types : List String) {value : Json}
    {f : FileHandle} (file : FileHandle.ofJson? value = some f) :
    let fits : Prop :=
      (∃ ext, f.HasExtension ext ∧
        ∃ t ∈ types, Text.lowerAsciiText (Text.trimText t) = Text.lowerAsciiText ext) ∨
      (∀ ext, ¬f.HasExtension ext) ∧ ∃ t ∈ types, Text.trimText t = ""
    (∃ check, Check.of? now (.mimes types) = .ok (some check) ∧
      ∀ base record, check.complaint? base value record = none ↔ fits) ∧
    (∀ (rule : FieldRule) before after record, rule.constraints = before ++ .mimes types :: after →
      (rule.Accepts now value record ↔
        fits ∧ { rule with constraints := before ++ after }.Accepts now value record)) ∧
    ∀ raw field before after,
      (RuleSpec.list (before ++ .text ("mimes:" ++ raw) :: after)).normalize field =
        { (RuleSpec.list (before ++ after)).normalize field with
          constraints := ((RuleSpec.list before).normalize field).constraints ++
            .mimes (Text.piecesOf ',' raw) ::
              ((RuleSpec.list after).normalize field).constraints } := by
  intro fits
  have compiled : Check.of? now (.mimes types) =
      .ok (some (.mimes (types.map fun t => Text.lowerAsciiText (Text.trimText t)))) := rfl
  have passes (base : BaseType) (record : Option Record) :
      (Check.mimes (types.map fun t => Text.lowerAsciiText (Text.trimText t))).complaint? base value
        record = none ↔ fits := by
    refine Iff.trans ?_ (f.extension_listed_iff types)
    simp only [Check.complaint?, onFile, file, ensure_eq_none_iff]
  refine ⟨⟨_, compiled, passes⟩, ?_, ?_⟩
  · intro rule before after record parts
    have given : value ≠ .null := by
      obtain ⟨members, rfl, -⟩ := FileHandle.named_of_ofJson? file
      simp
    rw [accepts_iff_others parts compiled given, passes]
  · intro raw field before after
    let t : RuleToken := .of "mimes" (some raw)
    have token : (RuleAtom.text ("mimes:" ++ raw)).token? = some t :=
      RuleAtom.token?_of_render (d := .mimes) rfl rfl
    have own : t.constraints field = [.mimes (Text.piecesOf ',' raw)] := rfl
    exact RuleSpec.normalize_insert_one (d := .mimes) token rfl rfl rfl own before after

/-- The last dot counts, and neither the case of the letters nor blanks in the list do. -/
theorem FieldRule.scan_by_extension :
    let scan : FileHandle := ⟨"scan.v2.JPG", none, some 2048⟩
    let value : Json := .object
      [("size", .number (.int 2048 (by decide))), ("name", .string "scan.v2.JPG")]
    let rule (constraints : List Constraint) : FieldRule := { base := .file, constraints }
    FileHandle.ofJson? value = some scan ∧ scan.HasExtension "JPG" ∧
    ((rule [.max 1, .mimes ["pdf", " Jpg ", ""], .image]).Accepts .epoch value none ↔
      (rule [.max 1, .image]).Accepts .epoch value none) ∧
    ((RuleSpec.list [.text "mimes:pdf, Jpg ,"]).normalize "scan").constraints =
      [.mimes ["pdf", " Jpg ", ""]] := by
  intro scan value rule
  have file : FileHandle.ofJson? value = some scan := rfl
  have has : scan.HasExtension "JPG" := ⟨"scan.v2", by decide, by decide, by decide, by decide⟩
  obtain ⟨-, field, text⟩ := mimes_by_extension .epoch ["pdf", " Jpg ", ""] file
  refine ⟨file, has, ?_, ?_⟩
  · rw [field (rule [.max 1, .mimes ["pdf", " Jpg ", ""], .image]) [.max 1] [.image] none rfl]
    exact and_iff_right (.inl ⟨"JPG", has, " Jpg ", by decide, by decide⟩)
  · exact (congrArg FieldRule.constraints (text "pdf, Jpg ," "scan" [] [])).trans (by decide)

/-- A comma at the end of a list lets every file without an extension pass. -/
theorem FieldRule.file_without_extension_accepted :
    let rule := (RuleSpec.pipe "file|mimes:pdf,").normalize "doc"
    let readme : FileHandle := ⟨"README", none, none⟩
    let value : Json := .object [("name", .string "README")]
    FileHandle.ofJson? value = some readme ∧ rule.Accepts .epoch value none ∧
      ∀ ext, ¬readme.HasExtension ext := by
  intro rule readme value
  have listed : rule = { base := .file, constraints := [.mimes ["pdf", ""]] } := by decide
  have without : ∀ ext, ¬readme.HasExtension ext := FileHandle.extension?_eq_none_iff.1 (by decide)
  rw [listed]
  exact ⟨rfl, ⟨_, rfl, by decide⟩, without⟩

end FormRules
