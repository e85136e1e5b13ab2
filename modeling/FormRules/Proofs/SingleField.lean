import FormRules.Proofs.Isolation
import FormRules.Schema.Form

/-!
# Fields on their own

A value can be checked without the record around it.  The checks that refer to
other fields then let it pass, so what is rejected on its own is rejected in
every record, and a field that refers to no other one says the same with and
without a record.  A form that accepted a record accepts each of its fields.
-/

namespace FormRules

/-! ## Checks without a record -/

variable {base : BaseType} {value : Json} {record : Record}

theorem compareDate_none {bound : DateBound} {holds : DateTime → DateTime → Bool}
    {complaint : String → Complaint}
    (passes : compareDate value bound (some record) holds complaint = none) :
    compareDate value bound none holds complaint = none := by
  cases bound with
  | «at» t => exact passes
  | field name =>
      unfold compareDate
      cases value.asString?.bind Calendar.parse? <;> rfl

theorem compareDate_of_reads_eq_nil {bound : DateBound} (closed : bound.reads = [])
    (holds : DateTime → DateTime → Bool) (complaint : String → Complaint) :
    compareDate value bound (some record) holds complaint =
      compareDate value bound none holds complaint := by
  cases bound with
  | «at» t => rfl
  | field name => cases closed

namespace Check

theorem complaint?_none {check : Check} (passes : check.complaint? base value (some record) = none) :
    check.complaint? base value none = none := by
  -- Only a confirmation and a date look at the record, and without one a confirmation passes.
  cases check with
  | confirmed field => rfl
  | after bound => exact compareDate_none passes
  | before bound => exact compareDate_none passes
  | _ => exact passes

theorem complaint?_of_reads_eq_nil {check : Check} (closed : check.reads = []) :
    check.complaint? base value (some record) = check.complaint? base value none := by
  cases check with
  | confirmed field => cases closed
  | after bound => exact compareDate_of_reads_eq_nil closed _ _
  | before bound => exact compareDate_of_reads_eq_nil closed _ _
  | _ => rfl

end Check

/-! ## Fields without a record -/

namespace FieldSchema

variable {f : FieldSchema}

theorem complaintAt?_none (accepted : f.complaintAt? value (some record) = none) :
    f.complaintAt? value none = none := by
  rw [complaintAt?_eq_none_iff] at accepted ⊢
  exact ⟨accepted.1, fun check hc => Check.complaint?_none (accepted.2 check hc)⟩

/-- A field that accepts a value in a record accepts it on its own. -/
theorem accepted_alone {value : Option Json} (accepted : f.complaint? value (some record) = none) :
    f.complaint? value none = none := by
  cases value with
  | none => exact accepted
  | some value =>
      by_cases given : value = .null
      · subst given
        rw [complaint?_null] at accepted ⊢
        -- A null gets as far as the checks only if it is neither refused nor let pass before.
        cases required : f.required with
        | true => simp [required] at accepted
        | false =>
            cases nullable : f.nullable with
            | true => simp
            | false =>
                simp only [required, nullable, Bool.false_eq_true, if_false] at accepted ⊢
                exact complaintAt?_none accepted
      · rw [complaint?_of_ne_null given] at accepted ⊢
        exact complaintAt?_none accepted

theorem complaint?_of_reads_eq_nil (closed : ∀ check ∈ f.checks, check.reads = [])
    (value : Option Json) : f.complaint? value (some record) = f.complaint? value none := by
  have same (v : Json) : f.complaintAt? v (some record) = f.complaintAt? v none := by
    unfold complaintAt?
    cases f.base.complaint? v with
    | some complaint => rfl
    | none =>
        exact Check.findSome?_congr fun check hc =>
          Check.complaint?_of_reads_eq_nil (closed check hc)
  cases value with
  | none => rfl
  | some value =>
      by_cases given : value = .null
      · subst given
        rw [complaint?_null, complaint?_null, same]
      · rw [complaint?_of_ne_null given, complaint?_of_ne_null given, same]

end FieldSchema

/-! ## Rules without references -/

/-- A rule refers to no other field: it asks for no confirmation, and each of its dates is a
keyword or a date. -/
structure FieldRule.RefersToNone (now : DateTime) (rule : FieldRule) : Prop where
  unconfirmed : ∀ field, .confirmed field ∉ rule.constraints
  dated : ∀ date, .after date ∈ rule.constraints ∨ .before date ∈ rule.constraints →
    Calendar.resolve date now ≠ .name

namespace FieldRule

variable {now : DateTime} {rule : FieldRule}

theorem namedBy_of_ne_name {parameter : String} (h : Calendar.resolve parameter now ≠ .name) :
    Calendar.namedBy now parameter = [] := by
  unfold Calendar.namedBy
  cases hr : Calendar.resolve parameter now with
  | name => exact absurd hr h
  | _ => rfl

theorem RefersToNone.reads (closed : rule.RefersToNone now) {check : Check}
    (hc : check ∈ rule.checks now) : check.reads = [] := by
  rcases mem_checks.1 hc with ⟨c, hm, h⟩ | ⟨rfl, -⟩
  · rw [Constraint.reads_of_check? h]
    cases c with
    | confirmed field => exact absurd hm (closed.unconfirmed field)
    | after date =>
        rw [Constraint.refersTo]
        exact namedBy_of_ne_name (closed.dated date (.inl hm))
    | before date =>
        rw [Constraint.refersTo]
        exact namedBy_of_ne_name (closed.dated date (.inr hm))
    | _ => rfl
  · rfl

end FieldRule

/-! ## Forms -/

namespace Form

variable (form : Form) {members : List (String × Json)}

theorem fieldComplaint?_of_validateAll
    (valid : (form.validateAll (.object members)).2 = true) (field : String) :
    form.schema.fieldComplaint? field (Entries.get? field members) = none := by
  unfold Schema.fieldComplaint?
  cases known : form.schema.fields.get? field with
  | none => rfl
  | some f =>
      have accepted := Schema.validateRecord_ok_iff.1 valid _
        (OrderedMap.mem_entries_of_get? known)
      exact FieldSchema.accepted_alone accepted

theorem validateAll_of_valid {data : Json} (valid : (form.validateAll data).2 = true) :
    (form.validateAll data).1 = new form.schema := by
  have clean : (form.validateAll data).1.errors = OrderedMap.empty :=
    OrderedMap.ext (List.isEmpty_iff.1 valid)
  have state : (form.validateAll data).1 = ⟨form.schema, (form.validateAll data).1.errors⟩ := rfl
  rw [state, clean]
  rfl

theorem validateOne_new {schema : Schema} {field : String} {value : Option Json}
    (accepted : schema.fieldComplaint? field value = none) :
    (new schema).validateOne field value = (new schema, true) := by
  unfold validateOne
  simp only [new, accepted]
  rfl

end Form

/-! ## Weakening -/

/-- What a compiled field accepts in a record it accepts on its own, and if its rule refers to no
other field it says the same with and without a record.  Only at the ends of the calendar is there
a rule that does not compile.  A form that accepted a record accepts each of its fields when they
are checked again, and goes on showing no complaint. -/
theorem FieldRule.weaker_without_record (now : DateTime) (rule : FieldRule) :
    ((FieldSchema.compile now rule = .error .mk ∧ ¬now.HasNeighbours) ∨
      ∃ f, FieldSchema.compile now rule = .ok f ∧
        (∀ value record, f.complaint? value (some record) = none → f.complaint? value none = none) ∧
        (rule.RefersToNone now →
          ∀ value record, f.complaint? value (some record) = f.complaint? value none)) ∧
    ∀ (form : Form) (members : List (String × Json)),
      let checked := form.validateAll (.object members)
      checked.2 = true →
        checked.1.errors = OrderedMap.empty ∧
          ∀ field, checked.1.validateOne field (Entries.get? field members) =
            (checked.1, true) := by
  constructor
  · rcases FieldSchema.compile_eq_error_or now rule with beyond | compiled
    · exact .inl beyond
    · refine .inr ⟨_, compiled, fun _ _ => FieldSchema.accepted_alone, ?_⟩
      intro closed value record
      exact FieldSchema.complaint?_of_reads_eq_nil (fun _ hc => closed.reads hc) value
  · intro form members checked valid
    have state : checked.1 = Form.new form.schema := form.validateAll_of_valid valid
    rw [state]
    exact ⟨rfl, fun field =>
      Form.validateOne_new (form.fieldComplaint?_of_validateAll valid field)⟩

/-- The end of a booking is accepted in a record that confirms it and has an earlier start, and so
on its own; a date between tomorrow and a fixed day refers to no other field. -/
theorem FieldRule.booking_weaker_without_record :
    let rule : FieldRule :=
      { base := .date, constraints := [.after " start ", .confirmed "end_confirmation"] }
    let closed : FieldRule :=
      { base := .date, constraints := [.after " Tomorrow", .max 3, .before "2030-01-01"] }
    let record : Record := [("start", .string "2025-02-01"), ("end", .string "2025-03-01"),
      ("end_confirmation", .string "2025-03-01")]
    let form := Form.new
      (RuleSet.schema .epoch (OrderedMap.ofList [("start", { base := .date }), ("end", rule)]))
    (∃ f, FieldSchema.compile .epoch rule = .ok f ∧
      f.complaint? (some (.string "2025-03-01")) (some record) = none ∧
      f.complaint? (some (.string "2025-03-01")) none = none) ∧
    closed.RefersToNone .epoch ∧
    (∃ g, FieldSchema.compile .epoch closed = .ok g ∧
      g.complaint? (some (.string "2031-03-01")) (some record) =
        g.complaint? (some (.string "2031-03-01")) none) ∧
    (form.validateAll (.object record)).2 = true ∧
    ((form.validateAll (.object record)).1.validateOne "end" (Entries.get? "end" record)).2 =
      true := by
  intro rule closed record form
  have refers : closed.RefersToNone .epoch := by
    refine ⟨by simp [closed], fun date h => ?_⟩
    have dates : date = " Tomorrow" ∨ date = "2030-01-01" := by simpa [closed] using h
    rcases dates with rfl | rfl <;> decide
  have valid : (form.validateAll (.object record)).2 = true := by decide
  obtain ⟨⟨-, beyond⟩ | ⟨f, hf, weaker, -⟩, again⟩ := weaker_without_record .epoch rule
  · exact absurd DateTime.hasNeighbours_epoch beyond
  obtain ⟨⟨-, beyond⟩ | ⟨g, hg, -, same⟩, -⟩ := weaker_without_record .epoch closed
  · exact absurd DateTime.hasNeighbours_epoch beyond
  have accepted : f.complaint? (some (.string "2025-03-01")) (some record) = none := by
    obtain rfl : _ = f := Except.ok.inj hf
    decide
  refine ⟨⟨f, hf, accepted, weaker _ _ accepted⟩, refers, ⟨g, hg, same refers _ _⟩, valid, ?_⟩
  rw [(again form record valid).2 "end"]

end FormRules
