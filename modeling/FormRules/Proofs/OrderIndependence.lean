import FormRules.Declaration
import FormRules.Proofs.Normalization
import FormRules.Proofs.Validation

/-!
# Independence of the order of rules

Which values a field accepts depends on what its tokens say, not on their order
or on how often one is repeated: on the two flags, on the type that is settled
last, and on the set of tokens that add constraints.  Only the choice among
several complaints depends on the order.
-/

namespace FormRules

/-! ## Acceptance -/

/-- Whether a schema accepts a value, which may be absent, alone or in a record. -/
def FieldSchema.accepts (f : FieldSchema) (value : Option Json) (record : Option Record) : Bool :=
  (f.complaint? value record).isNone

namespace FieldSchema

variable {f g : FieldSchema}

theorem complaintAt?_eq_none_congr (base : f.base = g.base)
    (checks : ∀ check, check ∈ f.checks ↔ check ∈ g.checks) (value : Json)
    (record : Option Record) :
    f.complaintAt? value record = none ↔ g.complaintAt? value record = none := by
  rw [complaintAt?_eq_none_iff, complaintAt?_eq_none_iff, base]
  simp only [checks]

theorem accepts_eq (same : ∀ value record, f.complaint? value record = none ↔
    g.complaint? value record = none) : f.accepts = g.accepts := by
  funext value record
  unfold accepts
  rw [Bool.eq_iff_iff, Option.isNone_iff_eq_none, Option.isNone_iff_eq_none, same]

/-- Two schemas with the same type, the same flags and the same set of checks accept the same
values. -/
theorem accepts_congr (base : f.base = g.base) (required : f.required = g.required)
    (nullable : f.nullable = g.nullable)
    (checks : ∀ check, check ∈ f.checks ↔ check ∈ g.checks) : f.accepts = g.accepts := by
  refine accepts_eq fun value record => ?_
  have same (v : Json) := complaintAt?_eq_none_congr base checks v record
  cases value with
  | none => simp [required]
  | some v =>
      by_cases hv : v = .null
      · subst hv
        simp only [complaint?_null, required, nullable]
        cases g.required with
        | true => simp
        | false => cases g.nullable with
          | true => simp
          | false => simpa using same .null
      · rw [complaint?_of_ne_null hv, complaint?_of_ne_null hv]
        exact same v

end FieldSchema

/-! ## Rules with the same conditions -/

namespace FieldRule

variable {rule₁ rule₂ : FieldRule}

theorem isBeyond_congr (now : DateTime)
    (constraints : ∀ c, c ∈ rule₁.constraints ↔ c ∈ rule₂.constraints) :
    rule₁.isBeyond now = rule₂.isBeyond now := by
  unfold isBeyond
  rw [Bool.eq_iff_iff, List.any_eq_true, List.any_eq_true]
  simp only [constraints]

theorem accepts_compile_eq {now : DateTime} (beyond : rule₁.isBeyond now = rule₂.isBeyond now)
    (same : (rule₁.schema now).accepts = (rule₂.schema now).accepts) :
    (FieldSchema.compile now rule₁).map FieldSchema.accepts =
      (FieldSchema.compile now rule₂).map FieldSchema.accepts := by
  rw [FieldSchema.compile_eq, FieldSchema.compile_eq, beyond]
  split
  · rfl
  · simp only [Except.map, same]

/-- The order of a rule's constraints and their number do not matter for what it accepts, nor for
whether it has a schema. -/
theorem accepts_compile_congr (now : DateTime) (base : rule₁.base = rule₂.base)
    (required : rule₁.required = rule₂.required) (nullable : rule₁.nullable = rule₂.nullable)
    (constraints : ∀ c, c ∈ rule₁.constraints ↔ c ∈ rule₂.constraints) :
    (FieldSchema.compile now rule₁).map FieldSchema.accepts =
      (FieldSchema.compile now rule₂).map FieldSchema.accepts := by
  have checks : ∀ check, check ∈ (rule₁.schema now).checks ↔ check ∈ (rule₂.schema now).checks := by
    intro check
    rw [schema_checks, schema_checks, mem_checks, mem_checks, base, required]
    simp only [constraints]
  exact accepts_compile_eq (isBeyond_congr now constraints)
    (FieldSchema.accepts_congr base required nullable checks)

end FieldRule

/-! ## Tokens with the same content -/

/-- Two lists of tokens say the same, in whatever order and however often. -/
structure RuleToken.SameContent (tokens₁ tokens₂ : List RuleToken) : Prop where
  required : (∃ t ∈ tokens₁, t.name = "required") ↔ ∃ t ∈ tokens₂, t.name = "required"
  nullable : (∃ t ∈ tokens₁, t.name = "nullable") ↔ ∃ t ∈ tokens₂, t.name = "nullable"
  type : RuleToken.settledType tokens₁ = RuleToken.settledType tokens₂
  constraints : ∀ t : RuleToken, t.name ∈ Directive.constraintNames → (t ∈ tokens₁ ↔ t ∈ tokens₂)

namespace RuleToken.SameContent

variable {tokens₁ tokens₂ : List RuleToken}

theorem any_name (name : String)
    (h : (∃ t ∈ tokens₁, t.name = name) ↔ ∃ t ∈ tokens₂, t.name = name) :
    (tokens₁.any fun t => t.name = name) = tokens₂.any fun t => t.name = name := by
  rw [Bool.eq_iff_iff, List.any_eq_true, List.any_eq_true]
  simpa using h

/-- The same constraints come from both, since every constraint comes from one token. -/
theorem mem_constraints (same : SameContent tokens₁ tokens₂) (field : String) (c : Constraint) :
    c ∈ tokens₁.flatMap (RuleToken.constraints field) ↔
      c ∈ tokens₂.flatMap (RuleToken.constraints field) := by
  rw [List.mem_flatMap, List.mem_flatMap]
  constructor
  · rintro ⟨t, ht, hc⟩
    exact ⟨t, (same.constraints t (mem_constraintNames hc)).1 ht, hc⟩
  · rintro ⟨t, ht, hc⟩
    exact ⟨t, (same.constraints t (mem_constraintNames hc)).2 ht, hc⟩

end RuleToken.SameContent

/-! ## Independence -/

/-- Specifications whose tokens say the same give a field that accepts the same values, alone and
in every record, and has the same property in the interface. -/
theorem RuleSpec.acceptance_independent_of_order (now : DateTime) (field : String)
    {spec₁ spec₂ : RuleSpec} (same : RuleToken.SameContent spec₁.tokens spec₂.tokens) :
    (FieldSchema.compile now (spec₁.normalize field)).map FieldSchema.accepts =
        (FieldSchema.compile now (spec₂.normalize field)).map FieldSchema.accepts ∧
      Declaration.property field (spec₁.normalize field) =
        Declaration.property field (spec₂.normalize field) := by
  unfold RuleSpec.normalize
  rw [FieldRule.ofTokens_eq, FieldRule.ofTokens_eq]
  have required := RuleToken.SameContent.any_name "required" same.required
  have nullable := RuleToken.SameContent.any_name "nullable" same.nullable
  constructor
  · exact FieldRule.accepts_compile_congr now same.type required nullable
      (same.mem_constraints field)
  · simp only [Declaration.property, required, same.type]

/-- One list sets the type by its last token and repeats `email`; the other is in another order
and has a descriptor for the pattern. -/
theorem RuleSpec.address_independent_of_order :
    let spec₁ := RuleSpec.list [.text " email", .text "regex:^a|b$", .text "required:x",
      .text "date", .text "between:6,40", .text "email", .text "string"]
    let spec₂ := RuleSpec.list [.text "integer", .text "between:6,40",
      .descriptor (.pattern "^a|b$"), .text "required", .text "email"]
    RuleToken.SameContent spec₁.tokens spec₂.tokens ∧
      (FieldSchema.compile .epoch (spec₁.normalize "mail")).map FieldSchema.accepts =
        (FieldSchema.compile .epoch (spec₂.normalize "mail")).map FieldSchema.accepts ∧
      Declaration.property "mail" (spec₁.normalize "mail") =
        Declaration.property "mail" (spec₂.normalize "mail") := by
  intro spec₁ spec₂
  have tokens₁ : spec₁.tokens = [.of "email" none, .of "regex" (some "^a|b$"),
      .of "required" (some "x"), .of "date" none, .of "between" (some "6,40"), .of "email" none,
      .of "string" none] := by decide
  have tokens₂ : spec₂.tokens = [.of "integer" none, .of "between" (some "6,40"),
      .of "regex" (some "^a|b$"), .of "required" none, .of "email" none] := by decide
  have same : RuleToken.SameContent spec₁.tokens spec₂.tokens := by
    rw [tokens₁, tokens₂]
    refine ⟨by decide, by decide, by decide, fun t ht => ?_⟩
    constructor
    · intro h
      simp only [List.mem_cons, List.not_mem_nil, or_false] at h
      rcases h with rfl | rfl | rfl | rfl | rfl | rfl | rfl <;> revert ht <;> decide
    · intro h
      simp only [List.mem_cons, List.not_mem_nil, or_false] at h
      rcases h with rfl | rfl | rfl | rfl | rfl <;> revert ht <;> decide
  exact ⟨same, RuleSpec.acceptance_independent_of_order .epoch "mail" same⟩

end FormRules
