import Mathlib.Data.List.Basic
import FormRules.Proofs.Validation

/-!
# Schemas of some fields

A schema can be cut down to some of its fields.  It makes no difference whether
the rules are cut down before they are compiled or the schema afterwards, the
fields that stay say about a record what they said before, and cutting down
twice leaves the fields that were named both times.
-/

namespace FormRules

/-! ## Maps -/

namespace OrderedMap

variable {α β : Type} (m : OrderedMap α)

theorem mapValues_restrict (f : String → α → β) (keep : String → Bool) :
    (m.mapValues f).restrict keep = (m.restrict keep).mapValues f := by
  apply OrderedMap.ext
  simp [mapValues, restrict, List.filter_map, Function.comp_def]

theorem restrict_restrict (keep more : String → Bool) :
    (m.restrict keep).restrict more = m.restrict fun key => keep key && more key := by
  apply OrderedMap.ext
  simp [restrict, List.filter_filter, Bool.and_comm]

theorem keys_restrict (keep : String → Bool) : (m.restrict keep).keys = m.keys.filter keep := by
  simp [keys, Entries.keys, restrict, List.filter_map, Function.comp_def]

end OrderedMap

/-! ## Rules -/

namespace RuleSet

variable (now : DateTime) (rules : RuleSet) (keep : String → Bool)

theorem isBeyond_restrict (inside : rules.isBeyond now = false) :
    isBeyond now (rules.restrict keep) = false := by
  unfold isBeyond at inside ⊢
  rw [List.any_eq_false] at inside ⊢
  intro e kept
  exact inside e (List.mem_of_mem_filter kept)

/-- The issues of a field all bear its name, so they stay or go together. -/
theorem filter_issuesOf (field : String) (rule : FieldRule) :
    (Schema.issuesOf field rule).filter (fun i => keep i.field) =
      if keep field then Schema.issuesOf field rule else [] := by
  have named : ∀ i ∈ Schema.issuesOf field rule, i.field = field := by
    intro i hi
    obtain ⟨c, -, hc⟩ := List.mem_filterMap.1 hi
    obtain ⟨pattern, -, rfl⟩ := Option.map_eq_some_iff.1 hc
    rfl
  cases kept : keep field with
  | true =>
      rw [if_pos rfl, List.filter_eq_self]
      intro i hi
      rw [named i hi, kept]
  | false =>
      rw [if_neg (by simp), List.filter_eq_nil_iff]
      intro i hi
      rw [named i hi, kept]
      simp

theorem issues_restrict : (schema now (rules.restrict keep)).issues =
    (rules.schema now).issues.filter fun i => keep i.field := by
  simp only [schema, OrderedMap.restrict, List.filter_flatMap, filter_issuesOf]
  induction rules.entries with
  | nil => rfl
  | cons e rest ih =>
      rw [List.flatMap_cons, ← ih]
      cases kept : keep e.1 <;> simp [kept]

theorem schema_restrict (names : List String) :
    schema now (rules.restrict names.contains) = (rules.schema now).subset names := by
  have fields : (schema now (rules.restrict names.contains)).fields =
      (rules.schema now).fields.restrict names.contains := by
    unfold schema
    rw [OrderedMap.mapValues_restrict]
  unfold Schema.subset
  rw [← fields, ← issues_restrict]

end RuleSet

/-! ## Schemas -/

namespace Schema

variable (s : Schema) (names : List String)

theorem complaints_subset (record : Record) :
    (s.subset names).complaints record =
      (s.complaints record).filter fun e => names.contains e.1 := by
  unfold complaints subset OrderedMap.restrict
  rw [List.filterMap_filter, List.filter_filterMap]
  congr 1
  funext e
  rw [Option.filter_map]
  cases e.2.complaint? (Entries.get? e.1 record) (some record) with
  | none => simp
  | some complaint => by_cases kept : e.1 ∈ names <;> simp [Option.filter, kept]

theorem subset_subset (more : List String) :
    (s.subset names).subset more = s.subset (names ∩ more) := by
  have both : (fun key => names.contains key && more.contains key) = (names ∩ more).contains := by
    funext key
    rw [Bool.eq_iff_iff]
    simp
  have fields : (s.fields.restrict names.contains).restrict more.contains =
      s.fields.restrict (names ∩ more).contains := by
    rw [OrderedMap.restrict_restrict, both]
  have issues : (s.issues.filter fun i => names.contains i.field).filter
      (fun i => more.contains i.field) = s.issues.filter fun i => (names ∩ more).contains i.field := by
    rw [List.filter_filter, ← both]
    simp only [Bool.and_comm]
  unfold subset
  rw [← fields, ← issues]

/-- Cutting a schema down to some names gives the schema of the rules under those names, with its
fields in their order and its issues.  It says about any record what the whole schema says about
the fields that are left, and a record is valid for it when those have nothing against them; the
record is not cut down, so that a field may still be compared with one that is left out.  Cutting
down twice is cutting down to the common names.  Only at the ends of the calendar is there a rule
set without a schema. -/
theorem subset_commutes (now : DateTime) (rules : RuleSet) (names : List String) :
    (compile now rules = .error .mk ∧ ¬now.HasNeighbours) ∨
      ∃ s, compile now rules = .ok s ∧
        compile now (rules.restrict names.contains) = .ok (s.subset names) ∧
        (s.subset names).fields.keys = rules.keys.filter names.contains ∧
        (∀ record,
          let left := (s.validateRecord record).errors.entries.filter fun e => names.contains e.1
          ((s.subset names).validateRecord record).errors.entries = left ∧
            (((s.subset names).validateRecord record).ok = true ↔ left = [])) ∧
        ∀ more, (s.subset names).subset more = s.subset (names ∩ more) := by
  cases hb : rules.isBeyond now with
  | true =>
      refine .inl ⟨by rw [compile_eq, hb, if_pos rfl], fun h => ?_⟩
      rw [RuleSet.isBeyond_eq_false h] at hb
      cases hb
  | false =>
      have compiled : compile now rules = .ok (rules.schema now) := by
        rw [compile_eq, hb]
        rfl
      have cut : compile now (rules.restrict names.contains) =
          .ok ((rules.schema now).subset names) := by
        rw [compile_eq, RuleSet.isBeyond_restrict now rules names.contains hb,
          RuleSet.schema_restrict]
        rfl
      have order : ((rules.schema now).subset names).fields.keys =
          rules.keys.filter names.contains := by
        have all : (rules.schema now).fields.keys = rules.keys :=
          Entries.keys_map fun e : String × FieldRule => e.2.schema now
        rw [← all]
        exact OrderedMap.keys_restrict _ _
      refine .inr ⟨_, compiled, cut, order, fun record => ?_, subset_subset _ names⟩
      have said : (((rules.schema now).subset names).validateRecord record).errors.entries =
          ((rules.schema now).validateRecord record).errors.entries.filter
            fun e => names.contains e.1 := by
        rw [entries_validateRecord, entries_validateRecord, complaints_subset]
      refine ⟨said, ?_⟩
      unfold Validation.ok OrderedMap.isEmpty
      rw [List.isEmpty_iff, said]

/-- The end is compared with the start, which has no field in the smaller schema. -/
example :
    let rules : RuleSet := OrderedMap.ofList
      [("start", { base := .date }), ("end", { base := .date, constraints := [.after "start"] })]
    let record : Record := [("start", .string "2025-02-01"), ("end", .string "2025-01-01")]
    (((rules.schema .epoch).subset ["guest", "end", "end"]).validateRecord record).errors.entries =
      [("end", .notAfter "start")] := by
  decide

end Schema

end FormRules
