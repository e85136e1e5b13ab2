import FormRules.Proofs.Compilation

/-!
# What validating says

A value is accepted when it has the type of its field and every check lets it
pass; a record is valid when each of its fields is accepted, and the complaint
about a field is the one its own schema makes.  A constraint adds its own demand
to those of the others.
-/

namespace FormRules

/-! ## Values -/

theorem Json.eq_string_of_asString? {value : Json} {s : String} (h : value.asString? = some s) :
    value = .string s := by
  cases value <;> simp_all [Json.asString?]

theorem FileHandle.named_of_ofJson? {value : Json} {f : FileHandle}
    (h : FileHandle.ofJson? value = some f) :
    ∃ members, value = .object members ∧ Entries.get? "name" members = some (.string f.name) := by
  obtain ⟨member, hm, hs⟩ := Option.bind_eq_some_iff.1 h
  obtain ⟨name, hn, hf⟩ := Option.bind_eq_some_iff.1 hs
  obtain rfl := Json.eq_string_of_asString? hn
  cases value with
  | object members =>
      cases hf
      exact ⟨members, rfl, hm⟩
  | _ => cases hm

theorem BaseType.complaint?_eq_none_iff {base : BaseType} {value : Json} :
    base.complaint? value = none ↔ base.admits value = true := by
  unfold BaseType.complaint?
  split
  · rename_i h
    simp [h]
  · rename_i h
    constructor
    · intro hc
      split at hc <;> cases hc
    · intro ha
      exact absurd ha h

namespace FieldSchema

variable {f : FieldSchema} {value : Json} {record : Option Record}

theorem complaintAt?_eq_none_iff :
    f.complaintAt? value record = none ↔
      f.base.admits value = true ∧
        ∀ check ∈ f.checks, check.complaint? f.base value record = none := by
  unfold complaintAt?
  cases h : f.base.complaint? value with
  | some complaint =>
      have ha : f.base.admits value ≠ true := by
        intro ha
        rw [BaseType.complaint?_eq_none_iff.2 ha] at h
        cases h
      simp [ha]
  | none => simp [BaseType.complaint?_eq_none_iff.1 h]

@[simp] theorem complaint?_none :
    f.complaint? none record = if f.required then some .required else none := rfl

@[simp] theorem complaint?_null :
    f.complaint? (some .null) record =
      if f.required then some .required
      else if f.nullable then none
      else f.complaintAt? .null record := rfl

theorem complaint?_of_ne_null (h : value ≠ .null) :
    f.complaint? (some value) record = f.complaintAt? value record := by
  cases value with
  | null => exact absurd rfl h
  | _ => rfl

/-- An accepted value that is not null has the type of its field. -/
theorem admits_of_accepted (h : value ≠ .null) (ha : f.complaint? (some value) record = none) :
    f.base.admits value = true := by
  rw [complaint?_of_ne_null h] at ha
  exact (complaintAt?_eq_none_iff.1 ha).1

/-- An accepted value passes every check of its field. -/
theorem passes_of_accepted (h : value ≠ .null) (ha : f.complaint? (some value) record = none)
    {check : Check} (hc : check ∈ f.checks) : check.complaint? f.base value record = none := by
  rw [complaint?_of_ne_null h] at ha
  exact (complaintAt?_eq_none_iff.1 ha).2 check hc

end FieldSchema

/-! ## One constraint among others -/

theorem ensure_eq_none_iff {ok : Bool} {complaint : Complaint} :
    ensure ok complaint = none ↔ ok = true := by
  cases ok <;> simp [ensure]

/-- A value without a size passes every bound on sizes. -/
theorem bounded_eq_none_iff {base : BaseType} {value : Json} {holds : Binary64 → Bool}
    {complaint : Complaint} :
    bounded base value holds complaint = none ↔
      ∀ m, base.measure? value = some m → holds m = true := by
  unfold bounded
  cases base.measure? value <;> simp [ensure_eq_none_iff]

namespace FieldRule

/-- The schema of a rule lets a value pass, alone or in a record. -/
def Accepts (now : DateTime) (rule : FieldRule) (value : Json) (record : Option Record) : Prop :=
  ∃ f, FieldSchema.compile now rule = .ok f ∧ f.complaint? (some value) record = none

variable {now : DateTime} {rule : FieldRule} {before after : List Constraint} {c : Constraint}

theorem isBeyond_eq_or (parts : rule.constraints = before ++ c :: after) :
    rule.isBeyond now =
      (c.isBeyond now || { rule with constraints := before ++ after }.isBeyond now) := by
  unfold isBeyond
  rw [parts, List.any_append, List.any_cons, List.any_append, Bool.or_left_comm]

theorem mem_checks_iff_others (parts : rule.constraints = before ++ c :: after) (check : Check) :
    check ∈ rule.checks now ↔
      c.check? now = some check ∨ check ∈ { rule with constraints := before ++ after }.checks now := by
  simp only [mem_checks, parts, List.mem_append, List.mem_cons]
  grind

/-- A rule has nothing to say against a value if the others of its constraints have not and the one
lets it pass; only a value that is there and not null comes before the constraints. -/
theorem complaint?_eq_none_iff_others (parts : rule.constraints = before ++ c :: after)
    (value : Option Json) (record : Option Record) :
    (rule.schema now).complaint? value record = none ↔
      ({ rule with constraints := before ++ after }.schema now).complaint? value record = none ∧
        ∀ v, value = some v → v ≠ .null → ∀ check, c.check? now = some check →
          check.complaint? rule.base v record = none := by
  cases value with
  | none => exact ⟨fun h => ⟨h, by simp⟩, fun h => h.1⟩
  | some v =>
      by_cases given : v = .null
      · subst given
        have refused (f : FieldSchema) : f.complaintAt? .null record ≠ none := by
          rw [Ne, FieldSchema.complaintAt?_eq_none_iff]
          cases f.base <;> simp [BaseType.admits, FileHandle.ofJson?, Json.member?]
        simp only [FieldSchema.complaint?_null, schema_required, schema_nullable]
        by_cases required : rule.required = true <;> by_cases nullable : rule.nullable = true <;>
          simp [required, nullable, refused]
      · rw [FieldSchema.complaint?_of_ne_null given, FieldSchema.complaint?_of_ne_null given,
          FieldSchema.complaintAt?_eq_none_iff, FieldSchema.complaintAt?_eq_none_iff]
        simp only [schema_base, schema_checks, mem_checks_iff_others parts]
        grind

section

variable {own : Check} (parts : rule.constraints = before ++ c :: after)
  (compiled : Check.of? now c = .ok (some own))
include parts compiled

theorem isBeyond_eq_others :
    rule.isBeyond now = { rule with constraints := before ++ after }.isBeyond now := by
  have inside : c.isBeyond now = false := by simp [Constraint.isBeyond, compiled]
  rw [isBeyond_eq_or parts, inside, Bool.false_or]

/-- A constraint with a check makes the demand of its check on top of what the others say. -/
theorem complaint?_eq_none_iff_own (value : Option Json) (record : Option Record) :
    (rule.schema now).complaint? value record = none ↔
      ({ rule with constraints := before ++ after }.schema now).complaint? value record = none ∧
        ∀ v, value = some v → v ≠ .null → own.complaint? rule.base v record = none := by
  have check (check : Check) : c.check? now = some check ↔ own = check := by
    simp [Constraint.check?, compiled]
  rw [complaint?_eq_none_iff_others parts]
  simp only [check, forall_eq']

theorem accepts_iff_others {v : Json} (given : v ≠ .null) (record : Option Record) :
    rule.Accepts now v record ↔ own.complaint? rule.base v record = none ∧
      { rule with constraints := before ++ after }.Accepts now v record := by
  unfold Accepts
  simp only [FieldSchema.compile_eq, isBeyond_eq_others parts compiled]
  split
  · simp
  · simp only [Except.ok.injEq, exists_eq_left', complaint?_eq_none_iff_own parts compiled,
      Option.some.injEq, forall_eq']
    simp [given, and_comm]

end

end FieldRule

/-! ## Records -/

namespace Schema

variable {s : Schema} {record : Record}

/-- The complaints about a record stand in the order of the schema, one a field at most. -/
theorem entries_validateRecord :
    (s.validateRecord record).errors.entries = s.complaints record := by
  apply OrderedMap.entries_ofList
  exact (Entries.keys_filterMap_sublist fun field f =>
    f.complaint? (Entries.get? field record) (some record)).nodup s.fields.nodup

theorem get?_validateRecord (field : String) :
    (s.validateRecord record).errors.get? field =
      (s.fields.get? field).bind fun f =>
        f.complaint? (Entries.get? field record) (some record) := by
  unfold OrderedMap.get?
  rw [entries_validateRecord]
  exact Entries.get?_filterMap s.fields.nodup fun field f =>
    f.complaint? (Entries.get? field record) (some record)

theorem validateRecord_ok_iff :
    (s.validateRecord record).ok = true ↔
      ∀ e ∈ s.fields.entries,
        e.2.complaint? (Entries.get? e.1 record) (some record) = none := by
  unfold Validation.ok OrderedMap.isEmpty
  rw [entries_validateRecord, List.isEmpty_iff]
  simp [complaints]

end Schema

end FormRules
