import FormRules.Proofs.Validation

/-!
# The first failure of a field

A field reports one thing at a time, and the order is fixed: a missing value, a
value of another type, then the constraints as they are declared, and last an
empty text where a text is required.  Each constraint counts as it would on its
own, so the report of a field is put together from fields with one constraint.
-/

namespace FormRules

theorem BaseType.complaint?_null (base : BaseType) :
    base.complaint? .null = some (.wrongType base .null) := by
  cases base <;> rfl

theorem Check.complaint?_notEmpty (base : BaseType) (value : Json) (record : Option Record) :
    Check.notEmpty.complaint? base value record =
      if value.asString? = some "" then some .required else none := by
  cases value with
  | string s => by_cases h : s = "" <;> simp [complaint?, onText, ensure, Json.asString?, h]
  | _ => simp [complaint?, onText, Json.asString?]

namespace FieldRule

/-! ## Rules with one constraint -/

/-- The rule with the type of another one that has a single constraint and needs no value. -/
def alone (rule : FieldRule) (c : Constraint) : FieldRule :=
  { base := rule.base, constraints := [c] }

/-- What the schema of a rule says against a value in a record, if the rule has a schema. -/
def complaint? (now : DateTime) (rule : FieldRule) (value : Json) (record : Option Record) :
    Option Complaint :=
  match FieldSchema.compile now rule with
  | .ok f => f.complaint? (some value) record
  | .error _ => none

variable {now : DateTime} {rule : FieldRule} {value : Json} {record : Option Record}

theorem isBeyond_alone (c : Constraint) : (rule.alone c).isBeyond now = c.isBeyond now := by
  simp [isBeyond, alone]

theorem checks_alone (c : Constraint) : (rule.alone c).checks now = (c.check? now).toList := by
  unfold checks alone
  cases h : c.check? now <;> simp [h]

/-- On its own, a constraint says what its check says, or nothing if it has none. -/
theorem complaint?_alone (given : value ≠ .null) (typed : rule.base.complaint? value = none)
    (c : Constraint) :
    (rule.alone c).complaint? now value record =
      (c.check? now).bind fun check => check.complaint? rule.base value record := by
  unfold complaint?
  rw [FieldSchema.compile_eq, isBeyond_alone]
  cases hb : c.isBeyond now with
  | true =>
      have unchecked := Constraint.check?_of_isBeyond hb
      simp [unchecked]
  | false =>
      have said : ((rule.alone c).schema now).complaint? (some value) record =
          (c.check? now).toList.findSome? fun check =>
            check.complaint? rule.base value record := by
        rw [FieldSchema.complaint?_of_ne_null given, FieldSchema.complaintAt?, schema_checks,
          checks_alone]
        simp [alone, typed]
      simp only [Bool.false_eq_true, if_false]
      rw [said]
      cases c.check? now with
      | none => rfl
      | some check => simp

/-! ## The report -/

/-- What the constraints of a rule have to say against a value of the rule's type, the first one
first, and then the demand for a text. -/
def conditionFailure? (now : DateTime) (rule : FieldRule) (record : Option Record) (value : Json) :
    Option Complaint :=
  match rule.constraints.findSome? fun c => (rule.alone c).complaint? now value record with
  | some complaint => some complaint
  | none =>
    if rule.required ∧ rule.base = .string ∧ value.asString? = some "" then some .required else none

/-- The first thing that a rule has to say against a value, which may be absent. -/
def firstFailure? (now : DateTime) (rule : FieldRule) (record : Option Record) :
    Option Json → Option Complaint
  | none => if rule.required then some .required else none
  | some .null =>
    if rule.required then some .required
    else if rule.nullable then none
    else some (.wrongType rule.base .null)
  | some value =>
    match rule.base.complaint? value with
    | some complaint => some complaint
    | none => rule.conditionFailure? now record value

theorem firstFailure?_of_ne_null (given : value ≠ .null) :
    rule.firstFailure? now record (some value) =
      match rule.base.complaint? value with
      | some complaint => some complaint
      | none => rule.conditionFailure? now record value := by
  cases value with
  | null => exact absurd rfl given
  | _ => rfl

theorem findSome?_filterMap_check (constraints : List Constraint)
    (complaint? : Check → Option Complaint) :
    (constraints.filterMap (Constraint.check? now)).findSome? complaint? =
      constraints.findSome? fun c => (c.check? now).bind complaint? := by
  induction constraints with
  | nil => rfl
  | cons c rest ih =>
      cases h : c.check? now with
      | none => simp [h, ih]
      | some check => simp [h, ih, List.findSome?_cons]

/-- The checks of a rule say what its constraints say one by one, then the demand for a text. -/
theorem findSome?_checks (given : value ≠ .null) (typed : rule.base.complaint? value = none) :
    (rule.checks now).findSome? (fun check => check.complaint? rule.base value record) =
      rule.conditionFailure? now record value := by
  have last : (if rule.required && rule.base = .string then [Check.notEmpty] else []).findSome?
      (fun check => check.complaint? rule.base value record) =
        if rule.required ∧ rule.base = .string ∧ value.asString? = some "" then some .required
        else none := by
    by_cases h : rule.required = true ∧ rule.base = .string
    · by_cases he : value.asString? = some "" <;>
        simp [h.1, h.2, he, Check.complaint?_notEmpty]
    · rw [if_neg (by simpa using h), if_neg fun hc => h ⟨hc.1, hc.2.1⟩]
      rfl
  unfold checks conditionFailure?
  rw [List.findSome?_append, findSome?_filterMap_check, last]
  simp only [complaint?_alone given typed]
  cases rule.constraints.findSome? fun c =>
    (c.check? now).bind fun check => check.complaint? rule.base value record <;> rfl

theorem complaint?_schema (now : DateTime) (rule : FieldRule) (value : Option Json)
    (record : Option Record) :
    (rule.schema now).complaint? value record = rule.firstFailure? now record value := by
  cases value with
  | none => rfl
  | some value =>
      by_cases given : value = .null
      · subst given
        simp [firstFailure?, FieldSchema.complaintAt?, BaseType.complaint?_null]
      · rw [FieldSchema.complaint?_of_ne_null given, firstFailure?_of_ne_null given,
          FieldSchema.complaintAt?, schema_base, schema_checks]
        cases typed : rule.base.complaint? value with
        | some complaint => rfl
        | none => exact findSome?_checks given typed

/-- No constraint comes between an empty text and the demand for a text. -/
theorem conditionFailure?_empty (required : rule.required = true) (text : rule.base = .string) :
    rule.conditionFailure? now record (.string "") ≠ none := by
  unfold conditionFailure?
  cases rule.constraints.findSome? fun c => (rule.alone c).complaint? now (.string "") record with
  | some complaint => simp
  | none => simp [required, text, Json.asString?]

/-- A compiled field reports the first failure of its rule, alone and in every record.  What it
reports for a value that is absent or null does not depend on the constraints, and a field that
requires a text rejects the empty one whatever they are.  Only at the ends of the calendar is there
a rule that does not compile. -/
theorem first_failure_reported (now : DateTime) (rule : FieldRule) :
    (FieldSchema.compile now rule = .error .mk ∧ ¬now.HasNeighbours) ∨
      ∃ f, FieldSchema.compile now rule = .ok f ∧
        (∀ value record, f.complaint? value record = rule.firstFailure? now record value) ∧
        (∀ constraints g, FieldSchema.compile now { rule with constraints } = .ok g →
          ∀ record, g.complaint? none record = f.complaint? none record ∧
            g.complaint? (some .null) record = f.complaint? (some .null) record) ∧
        (rule.required = true → rule.base = .string →
          ∀ record, f.complaint? (some (.string "")) record ≠ none) := by
  rcases FieldSchema.compile_eq_error_or now rule with beyond | compiled
  · exact .inl beyond
  · refine .inr ⟨_, compiled, complaint?_schema now rule, ?_, ?_⟩
    · intro constraints g hg record
      rcases FieldSchema.compile_eq_error_or now { rule with constraints } with ⟨beyond, -⟩ | other
      · rw [beyond] at hg
        cases hg
      · obtain rfl : _ = g := Except.ok.inj (other.symm.trans hg)
        simp only [complaint?_schema]
        exact ⟨rfl, rfl⟩
    · intro required text record
      rw [complaint?_schema, firstFailure?_of_ne_null (by simp)]
      have typed : rule.base.complaint? (.string "") = none := by
        rw [text]
        rfl
      rw [typed]
      exact conditionFailure?_empty required text

/-- The first constraint is left to the server and the second one does not compile, so the empty
address is no address; what is reported for null is the same without constraints. -/
theorem address_failure_reported :
    let rule : FieldRule :=
      { required := true, constraints := [.unique (some "users") none, .pattern "/(?<=a)b/", .email,
        .oneOf ["ann@example.com"]] }
    ∃ f g, FieldSchema.compile .epoch rule = .ok f ∧
      FieldSchema.compile .epoch { rule with constraints := [] } = .ok g ∧
      f.complaint? (some (.string "")) none = some .badEmail ∧
      f.complaint? (some (.string "bob@example.com")) (some []) =
        some (.notOneOf ["ann@example.com"]) ∧
      g.complaint? (some .null) (some []) = f.complaint? (some .null) (some []) ∧
      f.complaint? (some (.string "")) (some []) ≠ none := by
  intro rule
  rcases first_failure_reported .epoch rule with ⟨-, beyond⟩ | ⟨f, hf, report, missing, empty⟩
  · exact absurd DateTime.hasNeighbours_epoch beyond
  · obtain ⟨g, hg⟩ : ∃ g, FieldSchema.compile .epoch { rule with constraints := [] } = .ok g :=
      ⟨_, rfl⟩
    refine ⟨f, g, hf, hg, ?_, ?_, (missing [] g hg (some [])).2, empty rfl rfl (some [])⟩
    · rw [report]
      decide
    · rw [report]
      decide

end FieldRule

end FormRules
