import Mathlib.Data.List.Basic
import FormRules.Proofs.FirstFailure
import FormRules.Proofs.Isolation
import FormRules.Rule.Normal

/-!
# Constraints without a meaning for a value

Not every constraint means something for every value.  One that does not, such as
a pattern for a number or a date for a text that is none, lets the value pass, so
that a rule says the same without it.  The exception is a list of allowed values,
which rejects every array and every file.
-/

namespace FormRules

/-! ## Meaning -/

/-- Whether a constraint has a meaning for a value of a type.  Truth values, dates and files without
a size have nothing that bounds could measure, only texts have a form, only texts with a date in
them have a place in time, and only files have a kind of content. -/
def Constraint.appliesTo (base : BaseType) (value : Json) : Constraint → Bool
  | .min _ | .max _ | .size _ =>
    match base with
    | .boolean | .date => false
    | .file => ((FileHandle.ofJson? value).bind FileHandle.bytes).isSome
    | .string | .number | .array => true
  | .oneOf _ => value.kind ≠ .array ∧ value.kind ≠ .object
  | .pattern _ | .email | .url => value.kind = .string
  | .after _ | .before _ => (value.asString?.bind Calendar.parse?).isSome
  | .image | .mimes _ => (FileHandle.ofJson? value).isSome
  | .confirmed _ | .unique _ _ | .existing _ _ => true

/-! ## Checks -/

section

variable {base : BaseType} {value : Json} {record : Option Record}

theorem BaseType.ne_null_of_admits (typed : base.admits value = true) : value ≠ .null := by
  rintro rfl
  cases base <;> cases typed

theorem onText_of_kind (other : value.kind ≠ .string) (holds : String → Bool)
    (complaint : Complaint) : onText value holds complaint = none := by
  cases value with
  | string s => exact absurd rfl other
  | _ => rfl

theorem onFile_of_none (other : FileHandle.ofJson? value = none) (holds : FileHandle → Bool)
    (complaint : Complaint) : onFile value holds complaint = none := by
  unfold onFile
  rw [other]

theorem compareDate_of_none (undated : value.asString?.bind Calendar.parse? = none)
    (bound : DateBound) (holds : DateTime → DateTime → Bool) (complaint : String → Complaint) :
    compareDate value bound record holds complaint = none := by
  unfold compareDate
  rw [undated]

theorem BaseType.measure?_eq_none {n : Int64}
    (idle : (Constraint.min n).appliesTo base value = false) : base.measure? value = none := by
  cases base with
  | boolean => rfl
  | date => cases value <;> rfl
  | file =>
      have unsized : (FileHandle.ofJson? value).bind FileHandle.bytes = none := by
        simpa [Constraint.appliesTo] using idle
      change (FileHandle.ofJson? value).bind FileHandle.kilobytes? = none
      cases handle : FileHandle.ofJson? value with
      | none => rfl
      | some f =>
          rw [handle] at unsized
          have bytes : f.bytes = none := unsized
          simp [FileHandle.kilobytes?, bytes]
  | _ => cases idle

theorem bounded_of_idle {n : Int64} (idle : (Constraint.min n).appliesTo base value = false)
    (holds : Binary64 → Bool) (complaint : Complaint) :
    bounded base value holds complaint = none := by
  unfold bounded
  rw [BaseType.measure?_eq_none idle]

/-- What a constraint without a meaning for a value says against it: nothing, unless it is a list of
allowed values. -/
def Constraint.idleComplaint? : Constraint → Option Complaint
  | .oneOf values => some (.notOneOf values)
  | _ => none

theorem Check.complaint?_of_idle {now : DateTime} {c : Constraint} {check : Check}
    (idle : c.appliesTo base value = false) (compiled : Check.of? now c = .ok (some check)) :
    check.complaint? base value record = c.idleComplaint? := by
  cases c with
  | min n =>
      cases compiled
      exact bounded_of_idle idle _ _
  | max n =>
      cases compiled
      exact bounded_of_idle (n := n) idle _ _
  | size n =>
      cases compiled
      exact bounded_of_idle (n := n) idle _ _
  | oneOf values =>
      cases compiled
      cases value with
      | array items => rfl
      | object members => rfl
      | _ => simp [Constraint.appliesTo, Json.kind] at idle
  | pattern text =>
      simp only [Check.of?, Except.ok.injEq, Option.map_eq_some_iff] at compiled
      obtain ⟨regex, -, rfl⟩ := compiled
      exact onText_of_kind (by simpa [Constraint.appliesTo] using idle) _ _
  | email =>
      cases compiled
      exact onText_of_kind (by simpa [Constraint.appliesTo] using idle) _ _
  | url =>
      cases compiled
      exact onText_of_kind (by simpa [Constraint.appliesTo] using idle) _ _
  | after date =>
      simp only [Check.of?] at compiled
      obtain ⟨bound, -, rfl⟩ := DateBound.of_of_map compiled
      exact compareDate_of_none (by simpa [Constraint.appliesTo] using idle) _ _ _
  | before date =>
      simp only [Check.of?] at compiled
      obtain ⟨bound, -, rfl⟩ := DateBound.of_of_map compiled
      exact compareDate_of_none (by simpa [Constraint.appliesTo] using idle) _ _ _
  | image =>
      cases compiled
      exact onFile_of_none (by simpa [Constraint.appliesTo] using idle) _ _
  | mimes types =>
      cases compiled
      exact onFile_of_none (by simpa [Constraint.appliesTo] using idle) _ _
  | confirmed field => cases idle
  | unique table column => cases idle
  | existing table column => cases idle

end

/-! ## Rules -/

/-- Constraints that have nothing to say can be left out where the first one to speak is looked
for. -/
theorem Constraint.findSome?_filter {keep : Constraint → Bool}
    {complaint? : Constraint → Option Complaint} {constraints : List Constraint}
    (silent : ∀ c ∈ constraints, keep c = false → complaint? c = none) :
    (constraints.filter keep).findSome? complaint? = constraints.findSome? complaint? := by
  rw [← List.head?_filterMap, ← List.head?_filterMap, List.filterMap_filter]
  congr 1
  refine List.filterMap_congr fun c member => ?_
  cases kept : keep c with
  | true => simp
  | false => simp [silent c member kept]

namespace FieldRule

variable {now : DateTime} {rule : FieldRule} {value : Json} {record : Option Record}
  {keep : Constraint → Bool}

def keeping (rule : FieldRule) (keep : Constraint → Bool) : FieldRule :=
  { rule with constraints := rule.constraints.filter keep }

theorem isBeyond_keeping (inside : rule.isBeyond now = false) :
    (rule.keeping keep).isBeyond now = false := by
  unfold isBeyond keeping at *
  rw [List.any_eq_false] at inside ⊢
  exact fun c member => inside c (List.mem_filter.1 member).1

/-- A rule says the same about a value without the constraints that say nothing about it. -/
theorem complaint?_keeping (given : value ≠ .null)
    (silent : ∀ c ∈ rule.constraints, keep c = false → ∀ check, Check.of? now c = .ok (some check) →
      check.complaint? rule.base value record = none) :
    ((rule.keeping keep).schema now).complaint? (some value) record =
      (rule.schema now).complaint? (some value) record := by
  have base : (rule.keeping keep).base = rule.base := rfl
  rw [complaint?_schema, complaint?_schema, firstFailure?_of_ne_null given,
    firstFailure?_of_ne_null given, base]
  cases typed : rule.base.complaint? value with
  | some complaint => rfl
  | none =>
      have same : (rule.keeping keep).constraints.findSome?
          (fun c => (rule.alone c).complaint? now value record) =
            rule.constraints.findSome? fun c => (rule.alone c).complaint? now value record := by
        -- A constraint that is left out may have no check at all, or one that says nothing.
        refine Constraint.findSome?_filter fun c member left => ?_
        rw [complaint?_alone given typed]
        cases own : c.check? now with
        | none => rfl
        | some check => exact silent c member left check (Constraint.of?_of_check? own)
      unfold conditionFailure?
      rw [← same]
      rfl

/-- A field of arrays or of files has no use for a list of allowed values: it accepts nothing. -/
theorem not_accepts_of_oneOf {values : List String} (listed : .oneOf values ∈ rule.constraints)
    (typed : rule.base.admits value = true) (kind : rule.base = .array ∨ rule.base = .file) :
    ¬rule.Accepts now value record := by
  have idle : (Constraint.oneOf values).appliesTo rule.base value = false := by
    rcases kind with base | base
    · rw [base] at typed
      cases value <;> simp_all [BaseType.admits, Constraint.appliesTo, Json.kind]
    · rw [base] at typed
      obtain ⟨f, handle⟩ := Option.isSome_iff_exists.1 typed
      obtain ⟨members, rfl, -⟩ := FileHandle.named_of_ofJson? handle
      simp [Constraint.appliesTo, Json.kind]
  obtain ⟨before, after, parts⟩ := List.append_of_mem listed
  have compiled : Check.of? now (.oneOf values) = .ok (some (.oneOf values)) := rfl
  rw [accepts_iff_others parts compiled (BaseType.ne_null_of_admits typed),
    Check.complaint?_of_idle idle compiled]
  rintro ⟨passes, -⟩
  cases passes

/-- A constraint that has no meaning for a value of the type of its field says nothing against it,
alone and in every record, unless it is a list of allowed values.  So the field says the same about
the value without all of these constraints.  A list of allowed values has something to say against
every array and every file, and a field of arrays or files with such a list accepts none of them. -/
theorem idle_constraints_skipped (now : DateTime) (rule : FieldRule) (value : Json)
    (typed : rule.base.admits value = true) :
    (∀ c check, c.appliesTo rule.base value = false → Check.of? now c = .ok (some check) →
      ∀ record, check.complaint? rule.base value record = c.idleComplaint?) ∧
    (∀ f, FieldSchema.compile now rule = .ok f →
      ∃ g, FieldSchema.compile now
          (rule.keeping fun c => c.appliesTo rule.base value || c.kind = .oneOf) = .ok g ∧
        ∀ record, g.complaint? (some value) record = f.complaint? (some value) record) ∧
    (rule.base = .array ∨ rule.base = .file → ∀ values, .oneOf values ∈ rule.constraints →
      ∀ record, ¬rule.Accepts now value record) := by
  refine ⟨fun c check idle compiled record => Check.complaint?_of_idle idle compiled, ?_, ?_⟩
  · intro f compiled
    rw [FieldSchema.compile_eq] at compiled
    cases inside : rule.isBeyond now with
    | true => simp [inside] at compiled
    | false =>
        simp only [inside, Bool.false_eq_true, if_false, Except.ok.injEq] at compiled
        subst compiled
        refine ⟨_, by rw [FieldSchema.compile_eq, isBeyond_keeping inside]; rfl, fun record => ?_⟩
        refine complaint?_keeping (BaseType.ne_null_of_admits typed) ?_
        intro c member left check compiled
        have idle : c.appliesTo rule.base value = false ∧ c.kind ≠ .oneOf := by simpa using left
        rw [Check.complaint?_of_idle idle.1 compiled]
        cases c with
        | oneOf values => exact absurd rfl idle.2
        | _ => rfl
  · exact fun kind values listed record => not_accepts_of_oneOf listed typed kind

/-- Neither the lower bound nor the kind of content means anything for the date of a visit; the list
of tags rejects the very tag that it allows. -/
theorem visit_idle_constraints_skipped :
    let visit : FieldRule :=
      { base := .date, constraints := [.min 3, .image, .after "2024-06-01", .oneOf ["2024-05-03"]] }
    let dated : FieldRule :=
      { base := .date, constraints := [.after "2024-06-01", .oneOf ["2024-05-03"]] }
    let day : Json := .string "2024-05-03"
    let tags : FieldRule := { base := .array, constraints := [.max 3, .oneOf ["a"]] }
    let tagged : Json := .array [.string "a"]
    visit.base.admits day = true ∧ tags.base.admits tagged = true ∧
    (∃ f g, FieldSchema.compile .epoch visit = .ok f ∧ FieldSchema.compile .epoch dated = .ok g ∧
      ∀ record, g.complaint? (some day) record = f.complaint? (some day) record) ∧
    (Check.min 3).complaint? .date day none = none ∧ ¬tags.Accepts .epoch tagged none := by
  intro visit dated day tags tagged
  have isDay : visit.base.admits day = true := by decide
  have isList : tags.base.admits tagged = true := by decide
  obtain ⟨silent, same, -⟩ := idle_constraints_skipped .epoch visit day isDay
  obtain ⟨-, -, refused⟩ := idle_constraints_skipped .epoch tags tagged isList
  obtain ⟨f, hf⟩ : ∃ f, FieldSchema.compile .epoch visit = .ok f := ⟨_, rfl⟩
  obtain ⟨g, hg, same⟩ := same f hf
  have kept : (visit.keeping fun c => c.appliesTo visit.base day || c.kind = .oneOf) = dated := by
    decide
  rw [kept] at hg
  exact ⟨isDay, isList, ⟨f, g, hf, hg, same⟩, silent (.min 3) (.min 3) rfl rfl none,
    refused (.inl rfl) ["a"] (by simp [tags]) none⟩

/-- Without the list of allowed values the tags are accepted. -/
theorem listed_array_refused :
    let rule := (RuleSpec.pipe "array|in:a,b").normalize "tags"
    let tagged : Json := .array [.string "a"]
    rule.base.admits tagged = true ∧
    (∀ c ∈ rule.constraints, c.appliesTo rule.base tagged = false) ∧
    ¬rule.Accepts .epoch tagged none ∧
    { rule with constraints := [] }.Accepts .epoch tagged none := by
  intro rule tagged
  have tags : rule = { base := .array, constraints := [.oneOf ["a", "b"]] } := by decide
  rw [tags]
  have listed : Constraint.oneOf ["a", "b"] ∈ [Constraint.oneOf ["a", "b"]] := by simp
  exact ⟨by decide, by decide, not_accepts_of_oneOf listed (by decide) (.inl rfl),
    ⟨_, rfl, by decide⟩⟩

end FieldRule

end FormRules
