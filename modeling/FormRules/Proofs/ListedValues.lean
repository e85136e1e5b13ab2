import FormRules.Proofs.Interchange
import FormRules.Proofs.TokenText
import FormRules.Proofs.Validation

/-!
# Listed values

A descriptor lists the values of a field, and its text has commas between them.
Read again, the text is divided at every comma, those inside the values included;
blanks, colons, bars and empty values do no harm.
-/

namespace FormRules

/-! ## One token among others -/

/-- A token that sets neither a flag nor the type adds its constraints between those of the tokens
before and after it. -/
theorem FieldRule.ofTokens_insert {t : RuleToken} (required : t.name ≠ "required")
    (nullable : t.name ≠ "nullable") (type : t.type? = none) (field : String)
    (xs ys : List RuleToken) :
    ofTokens field (xs ++ t :: ys) =
      { ofTokens field (xs ++ ys) with
        constraints := (ofTokens field xs).constraints ++ t.constraints field ++
          (ofTokens field ys).constraints } := by
  simp [ofTokens_eq, RuleToken.settledType, required, nullable, type]

/-- An atom whose text is that of a token with a known name has this token. -/
theorem RuleAtom.token?_of_render {atom : RuleAtom} {name : String} {raw : Option String}
    {d : Directive} (rendered : atom.render = some (RuleToken.of name raw).text)
    (known : Directive.ofName? name = some d) : atom.token? = some (.of name raw) := by
  unfold token?
  rw [rendered, Option.bind_some]
  exact RuleToken.parse?_text (RuleToken.isName_of_ofName? known) (RuleToken.isDivided_of name raw)

/-- An atom whose token has a name for constraints alone changes nothing but the constraints. -/
theorem RuleSpec.normalize_insert {atom : RuleAtom} {t : RuleToken} {d : Directive}
    (token : atom.token? = some t) (known : Directive.ofName? t.name = some d)
    (adds : d.constrains = true) (untyped : d.type? = none) (field : String)
    (before after : List RuleAtom) :
    (list (before ++ atom :: after)).normalize field =
      { (list (before ++ after)).normalize field with
        constraints := ((list before).normalize field).constraints ++ t.constraints field ++
          ((list after).normalize field).constraints } := by
  have required : t.name ≠ "required" := by
    intro name
    rw [Directive.ofName?_eq_required.2 name] at known
    cases known
    cases adds
  have nullable : t.name ≠ "nullable" := by
    intro name
    rw [Directive.ofName?_eq_nullable.2 name] at known
    cases known
    cases adds
  have type : t.type? = none := by
    rw [RuleToken.type?, Directive.get?_typeNames, known]
    exact untyped
  have one : (list [atom]).tokens = [t] := by simp [tokens, atoms, token]
  have cons : atom :: after = [atom] ++ after := rfl
  unfold normalize
  rw [cons, tokens_list_append, tokens_list_append, one, List.singleton_append,
    FieldRule.ofTokens_insert required nullable type, tokens_list_append]

theorem RuleSpec.normalize_insert_one {atom : RuleAtom} {t : RuleToken} {d : Directive}
    {c : Constraint} {field : String} (token : atom.token? = some t)
    (known : Directive.ofName? t.name = some d) (adds : d.constrains = true)
    (untyped : d.type? = none) (own : t.constraints field = [c]) (before after : List RuleAtom) :
    (list (before ++ atom :: after)).normalize field =
      { (list (before ++ after)).normalize field with
        constraints := ((list before).normalize field).constraints ++
          c :: ((list after).normalize field).constraints } := by
  rw [normalize_insert token known adds untyped, own, List.append_assoc, List.singleton_append]

/-! ## The token of a descriptor -/

namespace Descriptor

def listToken (values : List String) : RuleToken :=
  .of "in" (some (Text.joinTexts "," values))

variable {values : List String}

theorem render_oneOf (ne : values ≠ []) :
    (Descriptor.oneOf values).render = some (listToken values).text := by
  cases values with
  | nil => exact absurd rfl ne
  | cons v rest => rfl

theorem token?_oneOf (ne : values ≠ []) :
    (RuleAtom.descriptor (.oneOf values)).token? = some (listToken values) :=
  RuleAtom.token?_of_render (d := .oneOf) (render_oneOf ne) rfl

theorem constraints_listToken (ne : values ≠ []) (field : String) :
    (listToken values).constraints field = [.oneOf (values.flatMap (Text.piecesOf ','))] := by
  have pieces : (listToken values).parameters = values.flatMap (Text.piecesOf ',') :=
    Text.piecesOf_joinTexts_eq_flatMap ne
  rw [← pieces]
  rfl

end Descriptor

/-! ## The rule of a field -/

namespace RuleSpec

open Descriptor

variable {values : List String}

theorem normalize_oneOf (ne : values ≠ []) (field : String) (before after : List RuleAtom) :
    (list (before ++ .descriptor (.oneOf values) :: after)).normalize field =
      { (list (before ++ after)).normalize field with
        constraints := ((list before).normalize field).constraints ++
          .oneOf (values.flatMap (Text.piecesOf ',')) ::
            ((list after).normalize field).constraints } :=
  normalize_insert_one (d := .oneOf) (token?_oneOf ne) rfl rfl rfl (constraints_listToken ne field)
    before after

theorem constraints_normalize_append (field : String) (before after : List RuleAtom) :
    ((list (before ++ after)).normalize field).constraints =
      ((list before).normalize field).constraints ++ ((list after).normalize field).constraints := by
  unfold normalize
  rw [tokens_list_append, FieldRule.ofTokens_eq, FieldRule.ofTokens_eq, FieldRule.ofTokens_eq,
    List.flatMap_append]

end RuleSpec

/-! ## Values of the field -/

namespace FieldRule

variable {now : DateTime} {rule : FieldRule} {before after : List Constraint}
  {values : List String}

/-- A field of texts for which null is no value accepts nothing else. -/
theorem eq_string_of_accepts (base : rule.base = .string) (nullable : rule.nullable = false)
    {v : Json} {record : Option Record} (accepts : rule.Accepts now v record) :
    ∃ s, v = .string s := by
  obtain ⟨f, compiled, fine⟩ := accepts
  have own : f = rule.schema now := by
    rw [FieldSchema.compile_eq] at compiled
    split at compiled <;> cases compiled
    rfl
  subst own
  have admits : rule.base.admits v = true := by
    by_cases given : v = .null
    · subst given
      rw [FieldSchema.complaint?_null, schema_required, schema_nullable, nullable] at fine
      split at fine
      · cases fine
      · exact (FieldSchema.complaintAt?_eq_none_iff.1 fine).1
    · exact FieldSchema.admits_of_accepted given fine
  rw [base] at admits
  cases v <;> simp_all [BaseType.admits]

/-- A list of values lets a text pass if it is one of them. -/
theorem accepts_string_iff_listed (parts : rule.constraints = before ++ .oneOf values :: after)
    (s : String) (record : Option Record) :
    rule.Accepts now (.string s) record ↔
      s ∈ values ∧ { rule with constraints := before ++ after }.Accepts now (.string s) record := by
  have passes : (Check.oneOf values).complaint? rule.base (.string s) record = none ↔
      s ∈ values := by
    simp [Check.complaint?, Json.isOneOf, Json.plainText?, ensure_eq_none_iff]
  rw [accepts_iff_others parts rfl (by simp), passes]

/-- A field with a list of values, and nothing else, accepts what is listed and nothing else. -/
theorem accepts_oneOf_iff {v : Json} {record : Option Record} :
    Accepts now { constraints := [.oneOf values] } v record ↔ ∃ s ∈ values, v = .string s := by
  have parts : ({ constraints := [.oneOf values] } : FieldRule).constraints =
    [] ++ .oneOf values :: [] := rfl
  constructor
  · intro accepts
    obtain ⟨s, rfl⟩ := eq_string_of_accepts rfl rfl accepts
    exact ⟨s, ((accepts_string_iff_listed parts s record).1 accepts).1, rfl⟩
  · rintro ⟨s, hs, rfl⟩
    exact (accepts_string_iff_listed parts s record).2 ⟨hs, _, rfl, rfl⟩

end FieldRule

namespace RuleSpec

/-- A descriptor that lists values gives its field one constraint, between those of the atoms
before it and after it, and changes nothing else.  The constraint has the values in their order,
but each divided at its commas: it has the values themselves if and only if there is no comma in
them, whatever else they hold.  Of the texts that the other atoms let pass, the field accepts
precisely the ones the constraint has; without other atoms it accepts these and nothing else. -/
theorem oneOf_divided_at_commas {values : List String} (ne : values ≠ []) (now : DateTime)
    (field : String) (before after : List RuleAtom) :
    let listed := values.flatMap (Text.piecesOf ',')
    let rule := (list (before ++ .descriptor (.oneOf values) :: after)).normalize field
    let others := (list (before ++ after)).normalize field
    rule = { others with
      constraints := ((list before).normalize field).constraints ++
        .oneOf listed :: ((list after).normalize field).constraints } ∧
    (listed = values ↔ ∀ v ∈ values, ',' ∉ v.toList) ∧
    (∀ s record, rule.Accepts now (.string s) record ↔
      s ∈ listed ∧ others.Accepts now (.string s) record) ∧
    ∀ v record, ((list [.descriptor (.oneOf values)]).normalize field).Accepts now v record ↔
      ∃ s ∈ listed, v = .string s := by
  intro listed rule others
  have normal : rule = _ := normalize_oneOf ne field before after
  have parts := congrArg FieldRule.constraints normal
  have without : { rule with constraints := ((list before).normalize field).constraints ++
      ((list after).normalize field).constraints } = others := by
    rw [normal, ← constraints_normalize_append]
  refine ⟨normal, Text.flatMap_piecesOf_eq_self_iff, fun s record => ?_, fun v record => ?_⟩
  · rw [FieldRule.accepts_string_iff_listed parts, without]
  · have alone : (list [.descriptor (.oneOf values)]).normalize field =
        { constraints := [.oneOf listed] } := normalize_oneOf ne field [] []
    rw [alone]
    exact FieldRule.accepts_oneOf_iff

/-- Blanks, colons and bars stay, and so does the empty value; only the comma divides. -/
theorem places_divided_at_commas :
    let values := ["New York ", "", "a:b|c", "Paris, France"]
    let rule := (list [.text "required", .descriptor (.oneOf values), .text "max:9"]).normalize "city"
    values ≠ [] ∧
    rule =
      { required := true
        constraints := [.oneOf ["New York ", "", "a:b|c", "Paris", " France"], .max 9] } ∧
    ∀ s record, rule.Accepts .epoch (.string s) record ↔
      s ∈ ["New York ", "", "a:b|c", "Paris", " France"] ∧
        ({ required := true, constraints := [.max 9] } : FieldRule).Accepts .epoch (.string s)
          record := by
  intro values rule
  have ne : values ≠ [] := by simp [values]
  obtain ⟨normal, -, accepts, -⟩ :=
    oneOf_divided_at_commas ne .epoch "city" [.text "required"] [.text "max:9"]
  exact ⟨ne, normal.trans (by decide), accepts⟩

/-- A value with a comma is not listed: its field takes the two parts and refuses the value. -/
theorem value_with_comma_refused :
    let rule := (list [.descriptor (.oneOf ["a,b"])]).normalize "role"
    rule.constraints = [.oneOf ["a", "b"]] ∧ rule.constraints ≠ [.oneOf ["a,b"]] ∧
      ¬rule.Accepts .epoch (.string "a,b") none ∧ rule.Accepts .epoch (.string "a") none := by
  have rule : (list [.descriptor (.oneOf ["a,b"])]).normalize "role" =
      { constraints := [.oneOf ["a", "b"]] } := by decide
  rw [rule]
  refine ⟨rfl, by decide, ?_, FieldRule.accepts_oneOf_iff.2 ⟨"a", by decide, rfl⟩⟩
  intro accepts
  obtain ⟨s, listed, same⟩ := FieldRule.accepts_oneOf_iff.1 accepts
  cases same
  revert listed
  decide

end RuleSpec

end FormRules
