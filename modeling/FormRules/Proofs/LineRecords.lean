import FormRules.Proofs.Json.Texts
import FormRules.Proofs.Reports

/-!
# One record a line

A data file can hold its records in an array or one on each line, and both ways
come to the same: the same records under the same numbers, and so the same
reports.  Blank lines hold no record, but they count where a line is to blame.
-/

namespace FormRules

/-! ## Lines of a text -/

namespace Text

inductive LineEnd where
  | feed
  | returnFeed
deriving DecidableEq, Repr

def LineEnd.text : LineEnd → List Char
  | .feed => ['\n']
  | .returnFeed => ['\r', '\n']

/-- Lines with their ends, and what follows the last end. -/
structure Rows where
  ended : List (List Char × LineEnd)
  last : List Char
  single : ∀ row ∈ ended, '\n' ∉ row.1
  lastSingle : '\n' ∉ last

def Rows.text (rows : Rows) : List Char :=
  rows.ended.flatMap (fun row => row.1 ++ row.2.text) ++ rows.last

/-- What the rows hold that is not blank. -/
def Rows.filled (rows : Rows) : List (List Char) :=
  (rows.ended.map Prod.fst ++ [rows.last]).filter fun line => !allBlank line

theorem lines_append_feed {line : List Char} (single : '\n' ∉ line) (rest : List Char) :
    lines (line ++ '\n' :: rest) = dropReturn line :: lines rest := by
  unfold lines
  rw [pieces_append, pieces_of_not_mem single, List.singleton_append]
  cases h : pieces '\n' rest with
  | nil => exact absurd h (pieces_ne_nil '\n' rest)
  | cons next more => rfl

theorem dropReturn_append_return (line : List Char) : dropReturn (line ++ ['\r']) = line := by
  simp [dropReturn]

/-- The line that a row is read as: a return at its end may belong to the end of the line. -/
def LineEnd.line (line : List Char) : LineEnd → List Char
  | .feed => dropReturn line
  | .returnFeed => line

theorem lines_append_end {line : List Char} (single : '\n' ∉ line) (e : LineEnd)
    (rest : List Char) : lines (line ++ e.text ++ rest) = e.line line :: lines rest := by
  cases e with
  | feed =>
      have text : line ++ LineEnd.feed.text ++ rest = line ++ '\n' :: rest := by
        simp [LineEnd.text]
      rw [text, lines_append_feed single]
      rfl
  | returnFeed =>
      have text : line ++ LineEnd.returnFeed.text ++ rest =
          (line ++ ['\r']) ++ '\n' :: rest := by
        simp [LineEnd.text]
      rw [text, lines_append_feed (by simpa using single), dropReturn_append_return]
      rfl

theorem dropReturn_eq_or (line : List Char) :
    dropReturn line = line ∨ line = dropReturn line ++ ['\r'] := by
  unfold dropReturn
  split
  · rename_i h
    obtain ⟨front, rfl⟩ := List.getLast?_eq_some_iff.1 h
    exact .inr (by rw [List.dropLast_concat])
  · exact .inl rfl

/-- A line is read as it stands or without a return at its end. -/
theorem LineEnd.line_eq_or (e : LineEnd) (line : List Char) :
    e.line line = line ∨ line = e.line line ++ ['\r'] := by
  cases e with
  | feed => exact dropReturn_eq_or line
  | returnFeed => exact .inl rfl

theorem LineEnd.allBlank_line (e : LineEnd) (line : List Char) :
    allBlank (e.line line) = allBlank line := by
  rcases e.line_eq_or line with same | cut
  · rw [same]
  · have h : allBlank line = allBlank (e.line line ++ ['\r']) := congrArg allBlank cut
    have blank : isBlank '\r' = true := by decide
    rw [h]
    simp [allBlank, blank]

end Text

/-! ## Records of lines -/

namespace Json

open Decode

variable {levels : Nat} {t : List Char} {v : Json}

/-- A return at the end of a text is white space around its value. -/
theorem IsText.of_append_return (h : IsText levels (t ++ ['\r']) v) : IsText levels t v := by
  obtain ⟨before, u, after, ht, hb, ha, hu⟩ := h
  rcases List.eq_nil_or_concat after with rfl | ⟨gap, c, rfl⟩
  · obtain ⟨cs, c, rfl, hc⟩ := hu.closes
    have last : c = '\r' := by
      have h := congrArg List.getLast? ht
      simpa using h.symm
    subst last
    exact absurd hc (by decide)
  · have cut : t = before ++ (u ++ gap) := by
      have h := congrArg List.dropLast ht
      simpa [← List.append_assoc] using h
    exact ⟨before, u, gap, cut, hb, fun d hd => ha d (by simp [hd]), hu⟩

theorem IsText.line (h : IsText levels t v) (e : Text.LineEnd) : IsText levels (e.line t) v := by
  rcases e.line_eq_or t with same | cut
  · rwa [same]
  · rw [cut] at h
    exact h.of_append_return

end Json

namespace Command

variable {w : Workspace}

/-- The lines that hold something hold the same values, in the same order, as the rows. -/
theorem forall₂_lines {levels : Nat} (ended : List (List Char × Text.LineEnd)) {last : List Char}
    (single : ∀ row ∈ ended, '\n' ∉ row.1) (lastSingle : '\n' ∉ last) {values : List Json}
    (each : List.Forall₂ (Json.IsText levels)
      ((ended.map Prod.fst ++ [last]).filter fun line => !Text.allBlank line) values) :
    List.Forall₂ (Json.IsText levels)
      ((Text.lines (ended.flatMap (fun row => row.1 ++ row.2.text) ++ last)).filter
        fun line => !Text.allBlank line) values := by
  induction ended generalizing values with
  | nil =>
      by_cases empty : last = []
      · subst empty
        simpa [Text.allBlank] using each
      · rw [List.flatMap_nil, List.nil_append, Text.lines_of_no_feed lastSingle empty]
        simpa using each
  | cons row rest ih =>
      obtain ⟨line, e⟩ := row
      have later : ∀ row ∈ rest, '\n' ∉ row.1 := fun row h => single row (List.mem_cons_of_mem _ h)
      rw [List.flatMap_cons, List.append_assoc,
        Text.lines_append_end (single _ List.mem_cons_self) e]
      rw [List.map_cons, List.cons_append] at each
      cases blank : Text.allBlank line with
      | true =>
          rw [List.filter_cons_of_neg (by simp [blank])] at each
          rw [List.filter_cons_of_neg (by simp [e.allBlank_line, blank])]
          exact ih later each
      | false =>
          rw [List.filter_cons_of_pos (by simp [blank])] at each
          rw [List.filter_cons_of_pos (by simp [e.allBlank_line, blank])]
          cases each with
          | cons head more => exact .cons (head.line e) (ih later more)

theorem loadRecords_rows {levels : Nat} (shallow : levels < Json.Decode.depthLimit)
    {rows : Text.Rows} {values : List Json} {path : String}
    (each : List.Forall₂ (Json.IsText levels) rows.filled values)
    (read : readText w path = .ok (String.ofList rows.text)) :
    loadRecords w true path = .ok values := by
  have lines := forall₂_lines rows.ended rows.single rows.lastSingle each
  refine loadRecords_lines.2 ⟨_, read, ?_⟩
  rw [String.toList_ofList]
  exact lines.imp fun line value text => text.ofText shallow

theorem loadRecords_array {levels : Nat} (shallow : levels + 1 < Json.Decode.depthLimit)
    {texts : List (List Char)} {values : List Json} {path : String}
    (each : List.Forall₂ (Json.IsText levels) texts values)
    (read : readText w path =
      .ok (String.ofList ('[' :: (Text.joinWith [','] texts ++ [']'])))) :
    loadRecords w false path = .ok values := by
  have document : readDocument w path = .ok (.array values) :=
    readDocument_eq_ok_iff.2 ⟨_, read, (Json.isText_array each).ofText shallow⟩
  exact loadRecords_document.2 ⟨_, document, rfl⟩

/-! ## Lines that cannot be read -/

def Readable (line : List Char) : Prop :=
  Text.allBlank line = true ∨ ∃ record, Json.ofText (String.ofList line) = .ok record

theorem not_readable_iff {line : List Char} : ¬Readable line ↔
    Text.allBlank line = false ∧ ∃ e, Json.ofText (String.ofList line) = .error e := by
  unfold Readable
  cases Json.ofText (String.ofList line) <;> simp

/-- If not all lines are readable, there is a first one that is not. -/
theorem exists_first_unreadable {lines : List (List Char)} (fails : ∃ line ∈ lines, ¬Readable line) :
    ∃ before line after, lines = before ++ line :: after ∧ (∀ l ∈ before, Readable l) ∧
      ¬Readable line := by
  induction lines with
  | nil => simp at fails
  | cons first rest ih =>
      by_cases fine : Readable first
      · obtain ⟨line, among, fault⟩ := fails
        rcases List.mem_cons.1 among with rfl | later
        · exact absurd fine fault
        · obtain ⟨before, line, after, rfl, passed, fault⟩ := ih ⟨line, later, fault⟩
          exact ⟨first :: before, line, after, rfl, List.forall_mem_cons.2 ⟨fine, passed⟩, fault⟩
      · exact ⟨[], first, rest, rfl, by simp, fine⟩

theorem recordsOfLines_append {path : String} {number : Nat} {before : List (List Char)}
    (passed : ∀ l ∈ before, Readable l) {line : List Char} (filled : Text.allBlank line = false)
    {e : Json.DecodeError} (fault : Json.ofText (String.ofList line) = .error e)
    (after : List (List Char)) :
    recordsOfLines path number (before ++ line :: after) =
      .error (.decode (.line path (number + before.length)) e) := by
  induction before generalizing number with
  | nil => simp [recordsOfLines, filled, fault]
  | cons first rest ih =>
      have later := @ih (number + 1) fun l h => passed l (List.mem_cons_of_mem _ h)
      have place : number + (first :: rest).length = number + 1 + rest.length := by
        rw [List.length_cons]
        omega
      rw [place, List.cons_append, recordsOfLines]
      cases blank : Text.allBlank first with
      | true => exact later
      | false =>
          rcases passed first List.mem_cons_self with fine | ⟨record, fine⟩
          · simp [blank] at fine
          · simp [fine, later, Except.map]

/-- Reading stops at the first line that is neither blank nor a record, and names its number. -/
theorem loadRecords_unreadable {path text : String} (read : readText w path = .ok text)
    (fails : ∃ line ∈ Text.lines text.toList, ¬Readable line) :
    ∃ before line after e, Text.lines text.toList = before ++ line :: after ∧
      (∀ l ∈ before, Readable l) ∧ ¬Readable line ∧
      Json.ofText (String.ofList line) = .error e ∧
      loadRecords w true path = .error (.decode (.line path (before.length + 1)) e) := by
  obtain ⟨before, line, after, parts, passed, fault⟩ := exists_first_unreadable fails
  obtain ⟨filled, e, decoded⟩ := not_readable_iff.1 fault
  refine ⟨before, line, after, e, parts, passed, fault, decoded, ?_⟩
  unfold loadRecords
  rw [read, Nat.add_comm before.length]
  change recordsOfLines path 1 (Text.lines text.toList) = _
  rw [parts, recordsOfLines_append passed filled decoded]

/-! ## Both ways -/

/-- Records on lines of their own and the same records in an array are loaded as the same values, if
each is the text of one value with at most 126 levels of arrays and objects, one level less than a
whole text may have.  A check of either file then shows the same marks and complaints under the same
numbers, each with the path of its file, and ends alike.  If a line is neither blank nor decoded,
loading fails and names the first such line by its number, where blank lines count. -/
theorem lines_load_as_array (w : Workspace) :
    (∀ (rows : Text.Rows) (values : List Json) (path path' : String),
      List.Forall₂ (Json.IsText 126) rows.filled values →
      readText w path = .ok (String.ofList rows.text) →
      readText w path' =
        .ok (String.ofList ('[' :: (Text.joinWith [','] rows.filled ++ [']']))) →
      loadRecords w true path = .ok values ∧ loadRecords w false path' = .ok values ∧
      ∀ selection rules s now today data data', loadRules w selection = .ok rules →
        Schema.compile ((Option.map DateTime.midnight today).getD now) rules = .ok s →
        resolveAll w data = .ok [path] → resolveAll w data' = .ok [path'] →
        let result := run now w (.check selection data true today)
        let result' := run now w (.check selection data' false today)
        result.lines = fileLines s (path, values) ∧ result'.lines = fileLines s (path', values) ∧
          result.verdict = result'.verdict ∧ result.exitCode = result'.exitCode) ∧
    ∀ path text, readText w path = .ok text →
      (∃ line ∈ Text.lines text.toList, ¬Readable line) →
      ∃ before line after e, Text.lines text.toList = before ++ line :: after ∧
        (∀ l ∈ before, Readable l) ∧ ¬Readable line ∧
        Json.ofText (String.ofList line) = .error e ∧
        loadRecords w true path = .error (.decode (.line path (before.length + 1)) e) := by
  refine ⟨?_, fun path text read fails => loadRecords_unreadable read fails⟩
  intro rows values path path' each read read'
  have lines := loadRecords_rows (by decide) each read
  have array := loadRecords_array (by decide) each read'
  refine ⟨lines, array, ?_⟩
  intro selection rules s now today data data' loaded compiled resolved resolved' result result'
  have checked (lineByLine : Bool) {data : List String} {path : String}
      (resolved : resolveAll w data = .ok [path])
      (holds : loadRecords w lineByLine path = .ok values) :
      let result := run now w (.check selection data lineByLine today)
      result.lines = fileLines s (path, values) ∧
        result.verdict = .ok (values.all fun record => (s.validate record).ok) := by
    have names : [path] = [(path, values)].map Prod.fst := rfl
    have file := checkAll_of_holds (s := s) resolved names (by simpa [Holds] using holds)
    rw [run_check loaded compiled]
    simpa using file
  obtain ⟨shown, verdict⟩ := checked true resolved lines
  obtain ⟨shown', verdict'⟩ := checked false resolved' array
  exact ⟨shown, shown', verdict.trans verdict'.symm, by
    rw [Result.exitCode_of_ok verdict, Result.exitCode_of_ok verdict']⟩

/-- The rows have both ends of a line, a blank line and a last line without an end.  The second
record is no object and the third one is null, so both lack a name. -/
theorem visits_load_as_array :
    let document := Json.object [("name", .string "required")]
    let values : List Json := [.object [("name", .string "Ann")], .array [.bool true], .null]
    let rows : Text.Rows :=
      { ended := [("\x7b\"name\":\"Ann\"\x7d".toList, .returnFeed), (" \t".toList, .feed),
          ("[true]\r".toList, .feed)]
        last := " null".toList
        single := by decide
        lastSingle := by decide }
    let w : Workspace :=
      { files := [(["rules"], .text document.text), (["a"], .text (String.ofList rows.text)),
          (["b"], .text "[\x7b\"name\":\"Ann\"\x7d,[true]\r, null]"), (["c"], .text "\n\x7b")]
        folders := [] }
    let s := (RuleSet.merge [document]).schema .epoch
    List.Forall₂ (Json.IsText 126) rows.filled values ∧
    loadRecords w true "a" = .ok values ∧ loadRecords w false "b" = .ok values ∧
    (let result := run .epoch w (.check ⟨["rules"], none, none⟩ ["a"] true none)
    let result' := run .epoch w (.check ⟨["rules"], none, none⟩ ["b"] false none)
    result.lines = fileLines s ("a", values) ∧ result'.lines = fileLines s ("b", values) ∧
      result.verdict = result'.verdict ∧ result.exitCode = result'.exitCode) ∧
    ∃ before line after e, Text.lines "\n\x7b".toList = before ++ line :: after ∧
      (∀ l ∈ before, Readable l) ∧ ¬Readable line ∧
      Json.ofText (String.ofList line) = .error e ∧
      loadRecords w true "c" = .error (.decode (.line "c" (before.length + 1)) e) := by
  intro document values rows w s
  have plain : ∀ v ∈ values, Json.Plain 126 v := by
    change ∀ v ∈ values, Json.Plain (125 + 1) v
    simp [values, Json.Plain, Entries.keys]
  have text (v : Json) (among : v ∈ values) : Json.ValueText 126 (Json.compact v) v :=
    Json.layout_compact.valueText (plain v among) 0
  have each : List.Forall₂ (Json.IsText 126) rows.filled values := by
    have none := Json.Decode.blank_nil
    have carriage : Json.Decode.Blank ['\r'] := by simp [Json.Decode.Blank, Json.Decode.isSpace]
    have space : Json.Decode.Blank [' '] := by simp [Json.Decode.Blank, Json.Decode.isSpace]
    exact .cons ⟨[], _, [], rfl, none, none, text _ (by simp [values])⟩
      (.cons ⟨[], _, ['\r'], rfl, none, carriage, text _ (by simp [values])⟩
        (.cons ⟨[' '], _, [], rfl, space, none, text _ (by simp [values])⟩ .nil))
  have plainRules : Json.Plain 1 document := by simp [document, Json.Plain, Entries.keys]
  have readRules : readDocument w "rules" = .ok document :=
    readDocument_eq_ok_iff.2 ⟨document.text, rfl, (Json.ofText_text plainRules (by decide)).1⟩
  have loaded : loadRules w ⟨["rules"], none, none⟩ = .ok (RuleSet.merge [document]) :=
    loadRules_of_readDocument rfl readRules
  have compiled : Schema.compile .epoch (RuleSet.merge [document]) = .ok s :=
    Schema.compile_of_hasNeighbours DateTime.hasNeighbours_epoch _
  obtain ⟨both, unreadable⟩ := lines_load_as_array w
  obtain ⟨lines, array, checked⟩ := both rows values "a" "b" each rfl rfl
  refine ⟨each, lines, array, ?_, ?_⟩
  · exact checked ⟨["rules"], none, none⟩ _ s .epoch none ["a"] ["b"] loaded compiled rfl rfl
  · refine unreadable "c" "\n\x7b" rfl ⟨['\x7b'], by decide, ?_⟩
    exact not_readable_iff.2 ⟨by decide, _, rfl⟩

end Command

end FormRules
