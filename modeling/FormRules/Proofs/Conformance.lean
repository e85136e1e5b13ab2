import FormRules.Projection
import FormRules.Proofs.Validation

/-!
# Conformance to the interface

The two faces of a rule specification agree: a record that the schema finds
valid has the shape that the interface declares.  The shape is read off the
lines of the declaration: whether a property is marked optional, and the text of
its type.
-/

namespace FormRules

namespace Declaration

/-! ## What a declaration promises -/

inductive Inhabits : String → Json → Prop where
  | string (s : String) : Inhabits "string" (.string s)
  | number (n : Number) : Inhabits "number" (.number n)
  | boolean (b : Bool) : Inhabits "boolean" (.bool b)
  | array (items : List Json) : Inhabits "any[]" (.array items)
  | date {s : String} {t : DateTime} (parsed : Calendar.parse? s = some t) :
      Inhabits "Date | string" (.string s)
  | file {members : List (String × Json)} {name : String}
      (named : Entries.get? "name" members = some (.string name)) :
      Inhabits "File" (.object members)

/-- A property as its line shows it. -/
structure Property where
  /-- Whether the line has the mark of properties that may be missing. -/
  optional : Bool
  type : String

namespace Property

def line (q : Property) (field : String) : List Char :=
  [' ', ' '] ++ key field.toList ++ (if q.optional then ['?'] else []) ++ [':', ' '] ++
    q.type.toList ++ [';']

/-- What a property promises about the member of a record under its field. -/
inductive Admits (q : Property) (nullable : Bool) : Option Json → Prop where
  /-- A member that has to be there; a text is not empty. -/
  | required {value : Json} (mandatory : q.optional = false) (typed : Inhabits q.type value)
      (filled : q.type = "string" → value ≠ .string "") : Admits q nullable (some value)
  | absent (optional : q.optional = true) : Admits q nullable none
  | given {value : Json} (optional : q.optional = true) (typed : Inhabits q.type value) :
      Admits q nullable (some value)
  | null (optional : q.optional = true) (allowed : nullable = true) :
      Admits q nullable (some .null)

def ofRule (rule : FieldRule) : Property :=
  ⟨!rule.required, typeName rule.base⟩

theorem line_ofRule (field : String) (rule : FieldRule) :
    (ofRule rule).line field = property field rule := by
  cases h : rule.required <;> simp [line, ofRule, property, h]

theorem line_injective {q r : Property} {field : String} (h : q.line field = r.line field) :
    q = r := by
  obtain ⟨qo, qt⟩ := q
  obtain ⟨ro, rt⟩ := r
  simp only [line, List.append_assoc] at h
  have h := List.append_cancel_left (List.append_cancel_left h)
  cases qo <;> cases ro <;> simp at h ⊢
  · exact String.toList_inj.1 h
  · exact String.toList_inj.1 h

theorem line_eq_iff {q r : Property} {field : String} : q.line field = r.line field ↔ q = r := by
  constructor
  · exact line_injective
  · rintro rfl
    rfl

end Property

/-! ## What the schema checks -/

theorem inhabits_of_admits {base : BaseType} {value : Json} (h : base.admits value = true) :
    Inhabits (typeName base) value := by
  cases base with
  | string =>
      cases value with
      | string s => exact .string s
      | _ => cases h
  | number =>
      cases value with
      | number n => exact .number n
      | _ => cases h
  | boolean =>
      cases value with
      | bool b => exact .boolean b
      | _ => cases h
  | array =>
      cases value with
      | array items => exact .array items
      | _ => cases h
  | date =>
      cases value with
      | string s =>
          obtain ⟨t, ht⟩ := Option.isSome_iff_exists.1 h
          exact .date ht
      | _ => cases h
  | file =>
      have hs : (FileHandle.ofJson? value).isSome = true := by
        cases value <;> exact h
      obtain ⟨f, hf⟩ := Option.isSome_iff_exists.1 hs
      obtain ⟨members, rfl, hn⟩ := FileHandle.named_of_ofJson? hf
      exact .file hn

theorem typeName_eq_string {base : BaseType} (h : typeName base = "string") : base = .string := by
  cases base <;> simp_all [typeName]

/-- A required text is checked not to be empty, whatever the constraints are. -/
theorem ne_empty_of_accepted {now : DateTime} {rule : FieldRule} {value : Json}
    {record : Option Record} (hr : rule.required = true) (hb : rule.base = .string)
    (ha : (rule.schema now).complaint? (some value) record = none) : value ≠ .string "" := by
  rintro rfl
  have hc : Check.notEmpty ∈ (rule.schema now).checks :=
    FieldRule.mem_checks.2 (.inr ⟨rfl, hr, hb⟩)
  have h := FieldSchema.passes_of_accepted (by simp) ha hc
  simp [Check.complaint?, onText, ensure] at h

/-- An accepted member is what the property of its rule promises. -/
theorem admits_of_accepted {now : DateTime} {rule : FieldRule} {member : Option Json}
    {record : Option Record} (ha : (rule.schema now).complaint? member record = none) :
    (Property.ofRule rule).Admits rule.nullable member := by
  have typed {value : Json} (hv : value ≠ .null)
      (h : (rule.schema now).complaint? (some value) record = none) :
      Inhabits (typeName rule.base) value :=
    inhabits_of_admits (FieldSchema.admits_of_accepted hv h)
  cases hr : rule.required with
  | true =>
      cases member with
      | none => simp [hr] at ha
      | some value =>
          have hv : value ≠ .null := by
            rintro rfl
            simp [hr] at ha
          exact .required (by simp [Property.ofRule, hr]) (typed hv ha) fun ht =>
            ne_empty_of_accepted hr (typeName_eq_string ht) ha
  | false =>
      have ho : (Property.ofRule rule).optional = true := by simp [Property.ofRule, hr]
      cases member with
      | none => exact .absent ho
      | some value =>
          by_cases hv : value = .null
          · subst hv
            cases hn : rule.nullable with
            | true => exact .null ho rfl
            | false =>
                -- Null has no type, so only a nullable field accepts it.
                simp only [FieldSchema.complaint?_null, FieldRule.schema_required, hr,
                  FieldRule.schema_nullable, hn] at ha
                have h := (FieldSchema.complaintAt?_eq_none_iff.1 ha).1
                cases hb : rule.base <;> simp [hb, BaseType.admits, FileHandle.ofJson?,
                  Json.member?] at h
          · exact .given ho (typed hv ha)

end Declaration

/-! ## Both faces together -/

theorem RawRuleSet.eq_of_project {now : DateTime} {raw : RawRuleSet} {name : String}
    {p : Projection} (h : raw.project now name = .ok p) :
    p = ⟨raw.normalize, raw.normalize.schema now, Declaration.text name raw.normalize⟩ := by
  unfold RawRuleSet.project at h
  cases hc : Schema.compile now raw.normalize with
  | error e => simp [hc, bind, Except.bind] at h
  | ok s =>
      rw [Schema.eq_schema_of_compile hc] at hc
      simp only [hc, bind, Except.bind, pure, Except.pure, Except.ok.injEq] at h
      exact h.symm

theorem RawRuleSet.project_of_hasNeighbours {now : DateTime} (h : now.HasNeighbours)
    (raw : RawRuleSet) (name : String) :
    raw.project now name =
      .ok ⟨raw.normalize, raw.normalize.schema now, Declaration.text name raw.normalize⟩ := by
  simp only [RawRuleSet.project, Schema.compile_of_hasNeighbours h, bind, Except.bind, pure,
    Except.pure]

/-- A record that the schema of a specification finds valid conforms to the interface of the
same specification: the declaration has a line for every field, and under every field the record
has what the line promises. -/
theorem RawRuleSet.valid_record_conforms {now : DateTime} {raw : RawRuleSet} {name : String}
    {p : Projection} {record : Record} (hp : raw.project now name = .ok p)
    (valid : (p.schema.validateRecord record).ok = true) :
    p.declaration = String.ofList (Text.joinWith ['\n'] (Declaration.lines name raw.normalize)) ∧
      ∀ field spec, raw.get? field = some spec →
        let line := Declaration.property field (spec.normalize field)
        line ∈ Declaration.lines name raw.normalize ∧
          ∃ q : Declaration.Property, (∀ r, r.line field = line ↔ r = q) ∧
            q.Admits (spec.normalize field).nullable (Entries.get? field record) := by
  obtain rfl := RawRuleSet.eq_of_project hp
  refine ⟨rfl, fun field spec hs => ?_⟩
  have hf : raw.normalize.get? field = some (spec.normalize field) := by
    rw [RawRuleSet.normalize, OrderedMap.get?_mapValues, hs]
    rfl
  constructor
  · have hm := OrderedMap.mem_entries_of_get? hf
    have hl := List.mem_map_of_mem (f := fun e => Declaration.property e.1 e.2) hm
    exact List.mem_append_left _ (List.mem_cons_of_mem _ hl)
  · have he := Schema.validateRecord_ok_iff.1 valid
      (field, (spec.normalize field).schema now)
      (OrderedMap.mem_entries_of_get? (by simp [hf]))
    refine ⟨.ofRule (spec.normalize field), ?_, Declaration.admits_of_accepted he⟩
    intro r
    rw [← Declaration.Property.line_ofRule]
    exact Declaration.Property.line_eq_iff

/-- The type of the address is set last by `email`, the team's key is quoted, and null is no
number but allowed. -/
theorem RawRuleSet.valid_contact_conforms :
    let contact : RawRuleSet := OrderedMap.ofList [("email", .pipe "required|integer|email"),
      ("team.id", .list [.text "numeric", .text " nullable "])]
    let record : Record := [("team.id", Json.null), ("email", .string "ann@example.com")]
    ∃ p, contact.project .epoch "Contact" = .ok p ∧ (p.schema.validateRecord record).ok = true ∧
      ∀ field spec, contact.get? field = some spec →
        let line := Declaration.property field (spec.normalize field)
        line ∈ Declaration.lines "Contact" contact.normalize ∧
          ∃ q : Declaration.Property, (∀ r, r.line field = line ↔ r = q) ∧
            q.Admits (spec.normalize field).nullable (Entries.get? field record) := by
  intro contact record
  have hp := contact.project_of_hasNeighbours DateTime.hasNeighbours_epoch "Contact"
  have hv : ((contact.normalize.schema .epoch).validateRecord record).ok = true := by decide
  exact ⟨_, hp, hv, (RawRuleSet.valid_record_conforms hp hv).2⟩

end FormRules
