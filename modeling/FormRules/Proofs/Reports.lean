import Mathlib.Data.List.Basic
import Mathlib.Data.List.Forall2
import FormRules.Command.Run
import FormRules.Proofs.Merging
import FormRules.Proofs.Json.Values
import FormRules.Proofs.Validation

/-!
# Reports of checks

A check goes over its data files in order and reports every record of a file
before it opens the next one.  A file that cannot be read ends the check: what
was reported before stays, and of the file itself nothing is reported.
-/

namespace FormRules

/-! ## Complaints in the order of the fields -/

/-- The complaints about a record are found field by field. -/
theorem Schema.entries_validate_eq (s : Schema) (record : Json) :
    (s.validate record).errors.entries = s.fields.keys.filterMap fun field =>
      ((s.validate record).errors.get? field).map fun c => (field, c) := by
  unfold validate
  generalize record.asObject?.getD [] = members
  rw [entries_validateRecord, complaints, OrderedMap.keys, Entries.keys, List.filterMap_map]
  apply List.filterMap_congr
  intro e known
  have own : s.fields.get? e.1 = some e.2 := (Entries.get?_eq_some_iff s.fields.nodup).2 known
  simp only [Function.comp_apply, get?_validateRecord, own, Option.bind_some]

namespace Command

/-! ## Styles -/

section styles

variable {part rest : List Char}

/-- The end of a style begins with a character that it does not hold again, so it cannot reach from
a part into what comes next. -/
theorem isPrefixOf_resetCode_append (whole : ¬ resetCode <:+: part) (filled : part ≠ [])
    (next : ∀ c ∈ rest.head?, c = '\x1b') : resetCode.isPrefixOf (part ++ rest) = false := by
  rw [← Bool.not_eq_true, List.isPrefixOf_iff_prefix]
  intro front
  rcases List.prefix_or_prefix_of_prefix front (List.prefix_append part rest) with
    short | ⟨back, split⟩
  · exact whole short.isInfix
  · cases back with
    | nil =>
        rw [List.append_nil] at split
        exact whole (split ▸ List.infix_refl part)
    | cons c back =>
        rw [← split, List.prefix_append_right_inj] at front
        obtain ⟨more, rfl⟩ := front
        obtain rfl : c = '\x1b' := next c rfl
        have once : '\x1b' ∉ resetCode.tail := by decide
        rw [← split, List.tail_append_of_ne_nil filled] at once
        exact once (by simp)

theorem restyled_append (style : List Char) (whole : ¬ resetCode <:+: part)
    (next : ∀ c ∈ rest.head?, c = '\x1b') :
    restyled style (part ++ rest) = part ++ restyled style rest := by
  induction part with
  | nil => rfl
  | cons c cs ih =>
      have other := isPrefixOf_resetCode_append whole (List.cons_ne_nil c cs) next
      rw [List.cons_append] at other
      rw [List.cons_append, restyled, other]
      simp only [Bool.false_eq_true, if_false, List.cons_append]
      rw [ih fun inside => whole (inside.trans (List.suffix_cons c cs).isInfix)]

theorem restyled_resetCode_append (style rest : List Char) :
    restyled style (resetCode ++ rest) = resetCode ++ (style ++ restyled style rest) := by
  have front : resetCode.isPrefixOf (resetCode ++ rest) = true := by
    rw [List.isPrefixOf_iff_prefix]
    exact List.prefix_append resetCode rest
  have chars : resetCode ++ rest = '\x1b' :: (['[', '0', 'm'] ++ rest) := rfl
  rw [chars] at front ⊢
  rw [restyled, front]
  simp [resetCode]

theorem restyled_joinWith (style : List Char) {parts : List (List Char)}
    (whole : ∀ part ∈ parts, ¬ resetCode <:+: part) :
    restyled style (Text.joinWith resetCode parts) =
      Text.joinWith (resetCode ++ style) parts := by
  induction parts with
  | nil => simp [Text.joinWith, restyled]
  | cons part parts ih =>
      obtain ⟨own, later⟩ := List.forall_mem_cons.1 whole
      cases parts with
      | nil =>
          have alone : restyled style (part ++ []) = part ++ restyled style [] :=
            restyled_append style own (by simp)
          simpa [Text.joinWith, restyled] using alone
      | cons next parts =>
          rw [Text.joinWith, List.append_assoc, restyled_append style own (by simp [resetCode]),
            restyled_resetCode_append, ih later, Text.joinWith]
          simp only [List.append_assoc]

/-- What a style is laid over keeps the style behind each end of another style within it. -/
theorem styled_joinTexts (codes : String) {parts : List String}
    (whole : ∀ part ∈ parts, ¬ resetCode <:+: part.toList) :
    styled true codes (Text.joinTexts "\x1b[0m" parts) =
      "\x1b[" ++ codes ++ "m" ++ Text.joinTexts ("\x1b[0m\x1b[" ++ codes ++ "m") parts ++
        "\x1b[0m" := by
  have inner : ∀ style, restyled style (Text.joinWith resetCode (parts.map String.toList)) =
      Text.joinWith (resetCode ++ style) (parts.map String.toList) :=
    fun style => restyled_joinWith style (by simpa using whole)
  have reset : "\x1b[0m".toList = resetCode := rfl
  have separator : ("\x1b[0m\x1b[" ++ codes ++ "m").toList =
      resetCode ++ ("\x1b[" ++ codes ++ "m").toList := by simp [resetCode]
  simp only [styled, if_true, Text.joinTexts, String.toList_ofList, reset, inner, separator]
  simp [← String.toList_inj, resetCode]

theorem styled_plain (codes : String) {text : String}
    (whole : ¬ resetCode <:+: text.toList) :
    styled true codes text = "\x1b[" ++ codes ++ "m" ++ text ++ "\x1b[0m" := by
  have single : ∀ sep, Text.joinTexts sep [text] = text := fun sep => by
    simp [Text.joinTexts, Text.joinWith]
  have one := @styled_joinTexts codes [text] (by simpa using whole)
  rwa [single, single] at one

end styles

/-! ## Records and files -/

def recordLines (s : Schema) (label : String) (record : Json) : List Line :=
  let v := s.validate record
  .mark v.ok label ::
    if v.ok then []
    else s.fields.keys.filterMap fun field =>
      (v.errors.get? field).map fun c => .complaint field c.message

def fileLines (s : Schema) (file : String × List Json) : List Line :=
  file.2.zipIdx.flatMap fun (record, k) => recordLines s (recordLabel file.1 k) record

def markText (colour valid : Bool) : String :=
  match valid with
  | true => if colour then "\x1b[32m✔\x1b[0m" else "✔"
  | false => if colour then "\x1b[31m✘\x1b[0m" else "✘"

/-- The text about a record: its mark, and below the mark of an invalid one a line for each field
that fails. -/
def recordText (colour : Bool) (s : Schema) (label : String) (record : Json) : String :=
  let v := s.validate record
  markText colour v.ok ++ " " ++ label ++ "\n" ++
    if v.ok then ""
    else
      String.join (s.fields.keys.filterMap fun field => (v.errors.get? field).map fun c =>
        "    " ++ styled colour "1" field ++ ": " ++ c.message ++ "\n")

/-- The text about the records of a file, whose labels number them from zero. -/
def fileText (colour : Bool) (s : Schema) (file : String × List Json) : String :=
  String.join (file.2.zipIdx.map fun (record, k) =>
    recordText colour s (file.1 ++ "#" ++ toString k) record)

theorem text_mark (colour valid : Bool) (label : String) :
    (Line.mark valid label).text colour = markText colour valid ++ " " ++ label := by
  cases valid <;> cases colour
  · rfl
  · exact congrArg (· ++ " " ++ label) (@styled_plain "31" "✘" (by decide))
  · rfl
  · exact congrArg (· ++ " " ++ label) (@styled_plain "32" "✔" (by decide))

theorem linesText_flatMap {α : Type} (colour : Bool) (f : α → List Line) (l : List α) :
    linesText colour (l.flatMap f) = String.join (l.map fun a => linesText colour (f a)) := by
  induction l with
  | nil => rfl
  | cons a l ih =>
      rw [List.flatMap_cons, List.map_cons, String.join_cons, ← ih]
      simp [linesText]

theorem linesText_recordLines (colour : Bool) (s : Schema) (label : String) (record : Json) :
    linesText colour (recordLines s label record) = recordText colour s label record := by
  unfold recordLines recordText linesText
  simp only [List.map_cons, String.join_cons, text_mark, String.append_assoc]
  cases (s.validate record).ok with
  | true => rfl
  | false => simp [List.map_filterMap, Line.text, Function.comp_def, String.append_assoc]

theorem linesText_fileLines (colour : Bool) (s : Schema) (file : String × List Json) :
    linesText colour (fileLines s file) = fileText colour s file := by
  unfold fileLines
  rw [linesText_flatMap]
  simp only [linesText_recordLines]
  rfl

theorem linesText_files (colour : Bool) (s : Schema) (files : List (String × List Json)) :
    linesText colour (files.flatMap (fileLines s)) =
      String.join (files.map (fileText colour s)) := by
  rw [linesText_flatMap]
  simp only [linesText_fileLines]

theorem lines_recordReport (s : Schema) (label : String) (record : Json) :
    (RecordReport.mk label (s.validate record)).lines = recordLines s label record := by
  unfold RecordReport.lines recordLines
  simp only
  cases valid : (s.validate record).ok with
  | true =>
      have none : (s.validate record).errors.entries = [] := List.isEmpty_iff.1 valid
      simp [none]
  | false =>
      rw [s.entries_validate_eq record, List.map_filterMap]
      simp only [Option.map_map, Function.comp_def]
      rfl

theorem recordReports_eq (s : Schema) (path : String) (index : Nat) (records : List Json) :
    recordReports s path index records = (records.zipIdx index).map fun (record, k) =>
      ⟨recordLabel path k, s.validate record⟩ := by
  induction records generalizing index with
  | nil => rfl
  | cons record rest ih => rw [recordReports, ih, List.zipIdx_cons, List.map_cons]

theorem lines_recordReports (s : Schema) (file : String × List Json) :
    (recordReports s file.1 0 file.2).flatMap RecordReport.lines = fileLines s file := by
  rw [recordReports_eq, List.flatMap_map]
  unfold fileLines
  simp only [lines_recordReport]

theorem all_recordReports (s : Schema) (path : String) (index : Nat) (records : List Json) :
    ((recordReports s path index records).all fun r => r.validation.ok) =
      records.all fun record => (s.validate record).ok := by
  induction records generalizing index with
  | nil => rfl
  | cons record rest ih => rw [recordReports, List.all_cons, ih, List.all_cons]

/-! ## Several files -/

variable {w : Workspace} {lineByLine : Bool}

/-- Every file holds the records that stand with its path. -/
def Holds (w : Workspace) (lineByLine : Bool) (files : List (String × List Json)) : Prop :=
  ∀ file ∈ files, loadRecords w lineByLine file.1 = .ok file.2

/-- The files that can be read are reported first, whatever comes after them. -/
theorem checkFiles_append (s : Schema) {files : List (String × List Json)}
    (holds : Holds w lineByLine files) (more : List String) :
    checkFiles w s lineByLine (files.map Prod.fst ++ more) =
      (files.flatMap (fun file => recordReports s file.1 0 file.2) ++
        (checkFiles w s lineByLine more).1, (checkFiles w s lineByLine more).2) := by
  induction files with
  | nil => rfl
  | cons file rest ih =>
      have first := holds file List.mem_cons_self
      have later := ih fun f hf => holds f (List.mem_cons_of_mem _ hf)
      rw [List.map_cons, List.cons_append, checkFiles, first]
      simp only [later, List.flatMap_cons, List.append_assoc]

/-- Either all files can be read, or there is a first one that cannot. -/
theorem holds_or_failure (w : Workspace) (lineByLine : Bool) (paths : List String) :
    (∃ files, paths = files.map Prod.fst ∧ Holds w lineByLine files) ∨
      ∃ files path after failure, paths = files.map Prod.fst ++ path :: after ∧
        Holds w lineByLine files ∧ loadRecords w lineByLine path = .error failure := by
  induction paths with
  | nil => exact .inl ⟨[], rfl, by simp [Holds]⟩
  | cons path rest ih =>
      cases read : loadRecords w lineByLine path with
      | error failure => exact .inr ⟨[], path, rest, failure, rfl, by simp [Holds], read⟩
      | ok records =>
          have extend {files : List (String × List Json)} (holds : Holds w lineByLine files) :
              Holds w lineByLine ((path, records) :: files) := by
            intro file hf
            rcases List.mem_cons.1 hf with rfl | hf
            · exact read
            · exact holds file hf
          rcases ih with ⟨files, rfl, holds⟩ | ⟨files, path', after, failure, rfl, holds, fails⟩
          · exact .inl ⟨(path, records) :: files, rfl, extend holds⟩
          · exact .inr ⟨(path, records) :: files, path', after, failure, rfl, extend holds, fails⟩

/-- A file with one record a line holds the records of its lines; blank lines hold none. -/
theorem recordsOfLines_eq_ok_iff {path : String} {number : Nat} {lines : List (List Char)}
    {records : List Json} :
    recordsOfLines path number lines = .ok records ↔
      List.Forall₂ (fun line record => Json.ofText (String.ofList line) = .ok record)
        (lines.filter fun line => !Text.allBlank line) records := by
  induction lines generalizing number records with
  | nil => simp [recordsOfLines, eq_comm]
  | cons line rest ih =>
      unfold recordsOfLines
      cases blank : Text.allBlank line with
      | true => simp [blank, ih]
      | false =>
          rw [if_neg (by simp), List.filter_cons_of_pos (by simp [blank]),
            List.forall₂_cons_left_iff]
          cases read : Json.ofText (String.ofList line) with
          | error e => simp
          | ok record =>
              constructor
              · intro h
                cases later : recordsOfLines path (number + 1) rest with
                | error e => simp [later, Except.map] at h
                | ok more =>
                    simp only [later, Except.map, Except.ok.injEq] at h
                    exact ⟨record, more, rfl, ih.1 later, h.symm⟩
              · rintro ⟨other, more, same, each, rfl⟩
                cases same
                rw [ih.2 each]
                rfl

theorem loadRecords_lines {path : String} {records : List Json} :
    loadRecords w true path = .ok records ↔
      ∃ text, readText w path = .ok text ∧
        List.Forall₂ (fun line record => Json.ofText (String.ofList line) = .ok record)
          ((Text.lines text.toList).filter fun line => !Text.allBlank line) records := by
  unfold loadRecords
  rw [if_pos rfl, bind_eq_ok_iff]
  simp only [recordsOfLines_eq_ok_iff]

theorem loadRecords_document {path : String} {records : List Json} :
    loadRecords w false path = .ok records ↔
      ∃ document, readDocument w path = .ok document ∧ recordsOf document = records := by
  unfold loadRecords
  rw [if_neg Bool.false_ne_true, bind_eq_ok_iff]
  simp only [pure, Except.pure, Except.ok.injEq]

theorem recordsOf_eq_iff {document : Json} {records : List Json} :
    recordsOf document = records ↔ document = .array records ∨
      (∀ items, document ≠ .array items) ∧ records = [document] := by
  cases document <;> simp [recordsOf, eq_comm]

/-! ## Checks -/

theorem Result.exitCode_of_ok {r : Result} {valid : Bool} (h : r.verdict = .ok valid) :
    r.exitCode = if valid then 0 else 1 := by
  unfold exitCode
  rw [h]
  cases valid <;> rfl

theorem Result.exitCode_of_error {r : Result} {failure : Failure} (h : r.verdict = .error failure) :
    r.exitCode = 2 := by
  unfold exitCode
  rw [h]

variable {s : Schema} {data paths : List String}

theorem checkAll_of_holds (resolved : resolveAll w data = .ok paths)
    {files : List (String × List Json)} (names : paths = files.map Prod.fst)
    (holds : Holds w lineByLine files) :
    let result := checkAll w s data lineByLine
    result.lines = files.flatMap (fileLines s) ∧ result.verdict =
      .ok (files.all fun file => file.2.all fun record => (s.validate record).ok) := by
  have reports := checkFiles_append s holds []
  rw [List.append_nil, ← names, checkFiles, List.append_nil] at reports
  unfold checkAll
  simp only [resolved, reports, List.flatMap_assoc, lines_recordReports, List.all_flatMap,
    all_recordReports, and_self]

theorem checkAll_of_failure (resolved : resolveAll w data = .ok paths)
    {files : List (String × List Json)} {path : String} {after : List String} {failure : Failure}
    (names : paths = files.map Prod.fst ++ path :: after) (holds : Holds w lineByLine files)
    (fails : loadRecords w lineByLine path = .error failure) :
    let result := checkAll w s data lineByLine
    result.lines = files.flatMap (fileLines s) ∧ result.verdict = .error failure := by
  have reports := checkFiles_append s holds (path :: after)
  rw [← names, checkFiles, fails, List.append_nil] at reports
  unfold checkAll
  simp only [resolved, reports, List.flatMap_assoc, lines_recordReports, and_self]

theorem run_check {rules : RuleSet} {selection : Selection} {now : DateTime} {today : Option Date}
    (loaded : loadRules w selection = .ok rules)
    (compiled : Schema.compile ((today.map DateTime.midnight).getD now) rules = .ok s) :
    run now w (.check selection data lineByLine today) = checkAll w s data lineByLine := by
  unfold run
  simp only [Command.selection, loaded, compiled]

/-- A check reports every record of every file: in the order of the files and of the records in
them it shows a mark with the path and the number of the record, and below the mark of an invalid
record what is wrong with each of its fields, in the order of the rules.  It succeeds if all
records are valid.  If some file cannot be read, the check fails with the reason, and what it has
shown are the complete reports of the files before the first such file.  In a file with one record
a line, blank lines are not numbered; otherwise the records are the items of an array, or the one
document that is none.  All this is about the text that is shown, with colours or without; a name
that ends a colour itself is coloured again from there on. -/
theorem records_reported (now : DateTime) (today : Option Date) {rules : RuleSet}
    {selection : Selection} (loaded : loadRules w selection = .ok rules)
    (compiled : Schema.compile ((today.map DateTime.midnight).getD now) rules = .ok s)
    (resolved : resolveAll w data = .ok paths) :
    let result := run now w (.check selection data lineByLine today)
    s.fields.keys = rules.keys ∧
    (∀ files, paths = files.map Prod.fst → Holds w lineByLine files →
      let valid := files.all fun file => file.2.all fun record => (s.validate record).ok
      (∀ colour, linesText colour result.lines = String.join (files.map (fileText colour s))) ∧
        result.verdict = .ok valid ∧ result.exitCode = if valid then 0 else 1) ∧
    (∀ files path after failure, paths = files.map Prod.fst ++ path :: after →
      Holds w lineByLine files → loadRecords w lineByLine path = .error failure →
      (∀ colour, linesText colour result.lines = String.join (files.map (fileText colour s))) ∧
        result.verdict = .error failure ∧ result.exitCode = 2) ∧
    ((∃ files, paths = files.map Prod.fst ∧ Holds w lineByLine files) ∨
      ∃ files path after failure, paths = files.map Prod.fst ++ path :: after ∧
        Holds w lineByLine files ∧ loadRecords w lineByLine path = .error failure) ∧
    (∀ path records, loadRecords w true path = .ok records ↔
      ∃ text, readText w path = .ok text ∧
        List.Forall₂ (fun line record => Json.ofText (String.ofList line) = .ok record)
          ((Text.lines text.toList).filter fun line => !Text.allBlank line) records) ∧
    (∀ path records, loadRecords w false path = .ok records ↔
      ∃ text document, readText w path = .ok text ∧ Json.ofText text = .ok document ∧
        (document = .array records ∨
          (∀ items, document ≠ .array items) ∧ records = [document])) ∧
    ∀ codes, (∀ text, styled false codes text = text) ∧
      ∀ parts, (∀ part ∈ parts, ¬ "\x1b[0m".toList <:+: part.toList) →
        styled true codes (Text.joinTexts "\x1b[0m" parts) =
          "\x1b[" ++ codes ++ "m" ++ Text.joinTexts ("\x1b[0m\x1b[" ++ codes ++ "m") parts ++
            "\x1b[0m" := by
  intro result
  have checked : result = checkAll w s data lineByLine := run_check loaded compiled
  have order : s.fields.keys = rules.keys := by
    rw [Schema.eq_schema_of_compile compiled]
    exact Entries.keys_map fun e : String × FieldRule => e.2.schema _
  have documents (path : String) (records : List Json) : loadRecords w false path = .ok records ↔
      ∃ text document, readText w path = .ok text ∧ Json.ofText text = .ok document ∧
        (document = .array records ∨ (∀ items, document ≠ .array items) ∧ records = [document]) := by
    rw [loadRecords_document]
    simp only [readDocument_eq_ok_iff, recordsOf_eq_iff]
    constructor
    · rintro ⟨document, ⟨text, read, decoded⟩, held⟩
      exact ⟨text, document, read, decoded, held⟩
    · rintro ⟨text, document, read, decoded, held⟩
      exact ⟨document, ⟨text, read, decoded⟩, held⟩
  refine ⟨order, ?_, ?_, holds_or_failure w lineByLine paths, fun _ _ => loadRecords_lines,
    documents, fun codes => ⟨fun _ => rfl, fun _ => styled_joinTexts codes⟩⟩
  · intro files names holds valid
    obtain ⟨lines, verdict⟩ := checkAll_of_holds (s := s) resolved names holds
    rw [checked]
    exact ⟨fun colour => by rw [lines, linesText_files], verdict, Result.exitCode_of_ok verdict⟩
  · intro files path after failure names holds fails
    obtain ⟨lines, verdict⟩ := checkAll_of_failure (s := s) resolved names holds fails
    rw [checked]
    exact ⟨fun colour => by rw [lines, linesText_files], verdict, Result.exitCode_of_error verdict⟩

/-- The second guest has no name, and the second file is not there. -/
theorem guests_reported :
    let document := Json.object [("name", .string "required")]
    let ann := Json.object [("name", .string "Ann")]
    let w : Workspace :=
      { files := [(["rules"], .text document.text), (["a"], .text (Json.array [ann, .null]).text)],
        folders := [] }
    let s := (RuleSet.merge [document]).schema .epoch
    loadRules w ⟨["rules"], none, none⟩ = .ok (RuleSet.merge [document]) ∧
    Schema.compile .epoch (RuleSet.merge [document]) = .ok s ∧
    resolveAll w ["a", "b"] = .ok ["a", "b"] ∧
    Holds w false [("a", [ann, .null])] ∧
    loadRecords w false "b" = .error (.read "b" .missing) ∧
    let result := run .epoch w (.check ⟨["rules"], none, none⟩ ["a", "b"] false none)
    linesText false result.lines = "✔ a#0\n✘ a#1\n    name: This field is required\n" ∧
      linesText true result.lines = "\x1b[32m✔\x1b[0m a#0\n\x1b[31m✘\x1b[0m a#1\n" ++
        "    \x1b[1mname\x1b[0m: This field is required\n" ∧
      result.exitCode = 2 := by
  intro document ann w s
  have plainRules : Json.Plain 1 document := by simp [document, Json.Plain, Entries.keys]
  have plainGuests : Json.Plain 2 (.array [ann, .null]) := by simp [ann, Json.Plain, Entries.keys]
  have readRules : readDocument w "rules" = .ok document :=
    readDocument_eq_ok_iff.2 ⟨document.text, rfl, (Json.ofText_text plainRules (by decide)).1⟩
  have readGuests : readDocument w "a" = .ok (.array [ann, .null]) :=
    readDocument_eq_ok_iff.2
      ⟨(Json.array [ann, .null]).text, rfl, (Json.ofText_text plainGuests (by decide)).1⟩
  have loaded : loadRules w ⟨["rules"], none, none⟩ = .ok (RuleSet.merge [document]) :=
    loadRules_of_readDocument rfl readRules
  have compiled : Schema.compile .epoch (RuleSet.merge [document]) = .ok s :=
    Schema.compile_of_hasNeighbours DateTime.hasNeighbours_epoch _
  have resolved : resolveAll w ["a", "b"] = .ok ["a", "b"] := rfl
  have holds : Holds w false [("a", [ann, .null])] := by
    intro file hf
    obtain rfl := List.mem_singleton.1 hf
    exact loadRecords_document.2 ⟨_, readGuests, rfl⟩
  have fails : loadRecords w false "b" = .error (.read "b" .missing) := rfl
  obtain ⟨-, -, shown, -, -, -, styles⟩ := records_reported .epoch none loaded compiled resolved
  obtain ⟨text, -, code⟩ := shown _ "b" [] _ rfl holds fails
  have bold : styled true "1" "name" = "\x1b[1mname\x1b[0m" :=
    (styles "1").2 ["name"] (by decide)
  have fields : s.fields.keys = ["name"] := by decide
  have first : (s.validate ann).ok = true := by decide
  have second : (s.validate .null).ok = false ∧
      (s.validate .null).errors.get? "name" = some .required := by decide
  refine ⟨loaded, compiled, resolved, holds, fails, ?_, ?_, code⟩
  · rw [text]
    decide
  · rw [text]
    simp only [fileText, recordText, fields, first, second, bold, List.map_cons, List.map_nil,
      List.zipIdx_cons, List.zipIdx_nil, List.filterMap_cons, List.filterMap_nil, Option.map_some]
    decide

end Command

end FormRules
