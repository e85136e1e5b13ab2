import FormRules.Proofs.ListedValues

/-!
# What descriptors say

A descriptor is read from its text, in which commas divide the places of a table's
rule, and the rule still says what the descriptor was built with.  A pattern is
kept as it stands; a table and a column are found at their own places, whatever
follows them; an object with rule text is as good as the text.
-/

namespace FormRules

/-! ## Names of tables and columns -/

/-- The name of a table or column without the blanks around it.  The empty name and the word `null`
in any case stand for the default one. -/
def Descriptor.cleaned? (name : String) : Option String :=
  let name := Text.trimText name
  if name = "" ∨ Text.lowerAsciiText name = "null" then none else some name

theorem RuleToken.tableName?_eq (t : RuleToken) (index : Nat) :
    t.tableName? index = (t.parameter? index).bind Descriptor.cleaned? := by
  unfold tableName? filled?
  cases t.parameter? index with
  | none => rfl
  | some parameter =>
      simp only [Option.map_some, Option.bind_some, Descriptor.cleaned?]
      by_cases empty : Text.trimText parameter = "" <;>
        by_cases null : Text.lowerAsciiText (Text.trimText parameter) = "null" <;>
          simp [Option.filter, empty, null]

namespace Descriptor

/-! ## Places -/

/-- What stands behind the table in the text of a descriptor.  The row that does not count has the
last two places, so a column that is not given has its place taken. -/
def places (column : Option String) (ignored : Option (String × String)) : List String :=
  match column, ignored with
  | none, none => []
  | some column, none => [column]
  | none, some (id, idColumn) => ["NULL", id, idColumn]
  | some column, some (id, idColumn) => [column, id, idColumn]

theorem render_unique (table : String) (column : Option String) (ignored : Option (String × String)) :
    (Descriptor.unique table column ignored).render =
      some ("unique:" ++ Text.joinTexts "," (table :: places column ignored)) := by
  cases column <;> cases ignored <;>
    simp [render, places, Text.joinTexts, Text.joinWith, ← String.toList_inj]

theorem render_existing (table : String) (column : Option String) :
    (Descriptor.existing table column).render =
      some ("exists:" ++ Text.joinTexts "," (table :: places column none)) := by
  cases column <;>
    simp [render, places, Text.joinTexts, Text.joinWith, ← String.toList_inj]

/-! ## Tokens -/

def tableToken (name table : String) (column : Option String) (ignored : Option (String × String)) :
    RuleToken :=
  .of name (some (Text.joinTexts "," (table :: places column ignored)))

variable {name table : String} {column : Option String} {ignored : Option (String × String)}

theorem parameters_tableToken (plain : ',' ∉ table.toList) :
    (tableToken name table column ignored).parameters =
      table :: (places column ignored).flatMap (Text.piecesOf ',') := by
  have pieces : (tableToken name table column ignored).parameters =
      (table :: places column ignored).flatMap (Text.piecesOf ',') :=
    Text.piecesOf_joinTexts_eq_flatMap (by simp)
  rw [pieces, List.flatMap_cons, Text.piecesOf_of_not_mem plain, List.singleton_append]

theorem tableName?_tableToken_zero (plain : ',' ∉ table.toList) :
    (tableToken name table column ignored).tableName? 0 = cleaned? table := by
  rw [RuleToken.tableName?_eq, RuleToken.parameter?, parameters_tableToken plain]
  rfl

/-- Whatever is ignored has its places behind the one of the column. -/
theorem tableName?_tableToken_one (plain : ',' ∉ table.toList)
    (simple : ∀ c ∈ column, ',' ∉ c.toList) :
    (tableToken name table column ignored).tableName? 1 = column.bind cleaned? := by
  rw [RuleToken.tableName?_eq, RuleToken.parameter?, parameters_tableToken plain,
    List.getElem?_cons_succ]
  cases column with
  | some column =>
      have own : Text.piecesOf ',' column = [column] := Text.piecesOf_of_not_mem (simple column rfl)
      cases ignored <;> simp [places, own]
  | none =>
      have placeholder : Text.piecesOf ',' "NULL" = ["NULL"] := by decide
      have default : cleaned? "NULL" = none := by decide
      cases ignored <;> simp [places, placeholder, default]

end Descriptor

/-! ## The rule of a field -/

namespace RuleSpec

open Descriptor

variable {table : String} {column : Option String} (field : String) (before after : List RuleAtom)

theorem normalize_pattern {text : String} (filled : text ≠ "") :
    (list (before ++ .descriptor (.pattern text) :: after)).normalize field =
      { (list (before ++ after)).normalize field with
        constraints := ((list before).normalize field).constraints ++
          .pattern text :: ((list after).normalize field).constraints } := by
  let t : RuleToken := .of "regex" (some text)
  have token : (RuleAtom.descriptor (.pattern text)).token? = some t :=
    RuleAtom.token?_of_render (d := .pattern) rfl rfl
  have own : t.constraints field = [.pattern text] := by
    have kept : t.pattern? = some text := by simp [t, RuleToken.pattern?, Option.filter, filled]
    change (t.pattern?.map Constraint.pattern).toList = _
    rw [kept]
    rfl
  exact normalize_insert_one (d := .pattern) token rfl rfl rfl own before after

theorem normalize_unique (plain : ',' ∉ table.toList) (simple : ∀ c ∈ column, ',' ∉ c.toList)
    (ignored : Option (String × String)) :
    (list (before ++ .descriptor (.unique table column ignored) :: after)).normalize field =
      { (list (before ++ after)).normalize field with
        constraints := ((list before).normalize field).constraints ++
          .unique (cleaned? table) (column.bind cleaned?) ::
            ((list after).normalize field).constraints } := by
  let t := tableToken "unique" table column ignored
  have token : (RuleAtom.descriptor (.unique table column ignored)).token? = some t :=
    RuleAtom.token?_of_render (d := .unique) (render_unique table column ignored) rfl
  have own : t.constraints field = [.unique (t.tableName? 0) (t.tableName? 1)] := rfl
  rw [tableName?_tableToken_zero plain, tableName?_tableToken_one plain simple] at own
  exact normalize_insert_one (d := .unique) token rfl rfl rfl own before after

theorem normalize_existing (plain : ',' ∉ table.toList) (simple : ∀ c ∈ column, ',' ∉ c.toList) :
    (list (before ++ .descriptor (.existing table column) :: after)).normalize field =
      { (list (before ++ after)).normalize field with
        constraints := ((list before).normalize field).constraints ++
          .existing (cleaned? table) (column.bind cleaned?) ::
            ((list after).normalize field).constraints } := by
  let t := tableToken "exists" table column none
  have token : (RuleAtom.descriptor (.existing table column)).token? = some t :=
    RuleAtom.token?_of_render (d := .existing) (render_existing table column) rfl
  have own : t.constraints field = [.existing (t.tableName? 0) (t.tableName? 1)] := rfl
  rw [tableName?_tableToken_zero plain, tableName?_tableToken_one plain simple] at own
  exact normalize_insert_one (d := .existing) token rfl rfl rfl own before after

/-- A descriptor and its text leave the same events of the reading. -/
theorem normalizeEvents_rendered {d : Descriptor} {text : String} (rendered : d.render = some text) :
    (list (before ++ .descriptor d :: after)).normalizeEvents field =
      (list (before ++ .text text :: after)).normalizeEvents field := by
  have silent : (RuleAtom.descriptor d).events = (RuleAtom.text text).events := by
    simp [RuleAtom.events, RuleAtom.render, rendered]
  have respelled : Respelled (list (before ++ .descriptor d :: after))
      (list (before ++ .text text :: after)) := .render rendered
  unfold normalizeEvents
  rw [respelled.tokens]
  simp [events, atoms, silent]

/-- Descriptors say in a list what they were built to say.  At every position in the list of every
field, a pattern adds the constraint with this pattern as it stands, and a table without a comma,
with a column without one, adds the constraint with the two names cleaned, while nothing of the row
to ignore gets into either of them, whatever it holds.  They change nothing else.  An object with
rule text is read as the text itself, down to the events of the reading. -/
theorem descriptors_read_as_built :
    let others := (list (before ++ after)).normalize field
    let placed (atom : RuleAtom) : RuleSpec := list (before ++ atom :: after)
    let adds (d : Descriptor) (c : Constraint) : Prop :=
      (placed (.descriptor d)).normalize field = { others with
        constraints := ((list before).normalize field).constraints ++
          c :: ((list after).normalize field).constraints }
    (∀ text, text ≠ "" → adds (.pattern text) (.pattern text)) ∧
    (∀ table column ignored, ',' ∉ table.toList → (∀ c ∈ column, ',' ∉ c.toList) →
      adds (.unique table column ignored) (.unique (cleaned? table) (column.bind cleaned?))) ∧
    (∀ table column, ',' ∉ table.toList → (∀ c ∈ column, ',' ∉ c.toList) →
      adds (.existing table column) (.existing (cleaned? table) (column.bind cleaned?))) ∧
    ∀ members text, Entries.get? "rule" members = some (.string text) →
      let object := placed (.descriptor (.record members))
      let written := placed (.text text)
      object.tokens = written.tokens ∧ object.normalize field = written.normalize field ∧
        object.normalizeEvents field = written.normalizeEvents field := by
  intro others placed adds
  refine ⟨fun text filled => normalize_pattern field before after filled,
    fun table column ignored plain simple =>
      normalize_unique field before after plain simple ignored,
    fun table column plain simple => normalize_existing field before after plain simple, ?_⟩
  intro members text rule object written
  have rendered : (Descriptor.record members).render = some text := by
    simp [render, rule]
  have tokens : object.tokens = written.tokens := (Respelled.render rendered).tokens
  exact ⟨tokens, congrArg (FieldRule.ofTokens field) tokens,
    normalizeEvents_rendered field before after rendered⟩

/-- The rules of an account: the ignored row has commas of its own and no column before it, the
column that is given stands for the default one, and the pattern keeps its blanks. -/
theorem account_descriptors_read_as_built :
    let before : List RuleAtom := [.text "required"]
    let after : List RuleAtom := [.text "max:9"]
    let placed (atom : RuleAtom) : FieldRule := (list (before ++ atom :: after)).normalize "login"
    let expected (c : Constraint) : FieldRule := { required := true, constraints := [c, .max 9] }
    let rule : List (String × Json) := [("note", .null), ("rule", .string " unique : a,b")]
    " a|b,c:d " ≠ "" ∧ ',' ∉ " users ".toList ∧ (∀ c ∈ some " Null", ',' ∉ c.toList) ∧
    Entries.get? "rule" rule = some (.string " unique : a,b") ∧
    placed (.descriptor (.pattern " a|b,c:d ")) = expected (.pattern " a|b,c:d ") ∧
    placed (.descriptor (.unique " users " none (some ("7,8", "id,x")))) =
      expected (.unique (some "users") none) ∧
    placed (.descriptor (.existing " users " (some " Null"))) =
      expected (.existing (some "users") none) ∧
    placed (.descriptor (.record rule)) = expected (.unique (some "a") (some "b")) := by
  intro before after placed expected rule
  have filled : " a|b,c:d " ≠ "" := by decide
  have plain : ',' ∉ " users ".toList := by decide
  have simple : ∀ c ∈ some " Null", ',' ∉ c.toList := by simp
  have member : Entries.get? "rule" rule = some (.string " unique : a,b") := rfl
  obtain ⟨pattern, unique, existing, object⟩ := descriptors_read_as_built "login" before after
  refine ⟨filled, plain, simple, member, (pattern _ filled).trans ?_,
    (unique _ none _ plain (by simp)).trans ?_, (existing _ _ plain simple).trans ?_,
    (object rule _ member).2.1.trans ?_⟩ <;> decide

end RuleSpec

end FormRules
