import FormRules.Proofs.Validation

/-!
# Isolation of fields

The complaint about a field is settled by its own rule and by the members of the
record that the rule refers to: its own, the one that confirms it, and the other
dates it is compared with.  Nothing else of the record and no other field's rule
has an influence.
-/

namespace FormRules

variable {record₁ record₂ : Record}

/-! ## What a check reads -/

def DateBound.reads : DateBound → List String
  | .at _ => []
  | .field name => [name]

/-- The fields whose members a check reads besides the value. -/
def Check.reads : Check → List String
  | .confirmed field => [field]
  | .after bound => bound.reads
  | .before bound => bound.reads
  | _ => []

theorem DateBound.resolve?_congr {bound : DateBound}
    (agree : ∀ key ∈ bound.reads, Entries.get? key record₁ = Entries.get? key record₂) :
    bound.resolve? (some record₁) = bound.resolve? (some record₂) := by
  cases bound with
  | «at» t => rfl
  | field name =>
      have h := agree name (by simp [reads])
      simp [resolve?, h]

theorem Check.complaint?_congr {check : Check} {base : BaseType} {value : Json}
    (agree : ∀ key ∈ check.reads, Entries.get? key record₁ = Entries.get? key record₂) :
    check.complaint? base value (some record₁) = check.complaint? base value (some record₂) := by
  cases check with
  | confirmed field =>
      have h := agree field (by simp [reads])
      simp [complaint?, h]
  | after bound =>
      have h := DateBound.resolve?_congr agree
      simp [complaint?, compareDate, h]
  | before bound =>
      have h := DateBound.resolve?_congr agree
      simp [complaint?, compareDate, h]
  | _ => rfl

/-- The first complaint of some checks depends on what each of them says. -/
theorem Check.findSome?_congr {checks : List Check} {f g : Check → Option Complaint}
    (h : ∀ check ∈ checks, f check = g check) : checks.findSome? f = checks.findSome? g := by
  induction checks with
  | nil => rfl
  | cons check rest ih =>
      rw [List.findSome?_cons, List.findSome?_cons, h check List.mem_cons_self,
        ih fun k hk => h k (List.mem_cons_of_mem _ hk)]

theorem FieldSchema.complaintAt?_congr {f : FieldSchema} {value : Json}
    (agree : ∀ check ∈ f.checks, ∀ key ∈ check.reads,
      Entries.get? key record₁ = Entries.get? key record₂) :
    f.complaintAt? value (some record₁) = f.complaintAt? value (some record₂) := by
  unfold complaintAt?
  cases f.base.complaint? value with
  | some complaint => rfl
  | none => exact Check.findSome?_congr fun check hc => Check.complaint?_congr (agree check hc)

theorem FieldSchema.complaint?_congr {f : FieldSchema} {value : Option Json}
    (agree : ∀ check ∈ f.checks, ∀ key ∈ check.reads,
      Entries.get? key record₁ = Entries.get? key record₂) :
    f.complaint? value (some record₁) = f.complaint? value (some record₂) := by
  cases value with
  | none => rfl
  | some value =>
      by_cases hv : value = .null
      · subst hv
        simp [complaintAt?_congr agree]
      · rw [complaint?_of_ne_null hv, complaint?_of_ne_null hv, complaintAt?_congr agree]

/-! ## What a rule refers to -/

/-- The field that a date parameter names, if it is neither a keyword nor a date. -/
def Calendar.namedBy (now : DateTime) (parameter : String) : List String :=
  match Calendar.resolve parameter now with
  | .name => [Text.trimText parameter]
  | _ => []

def Constraint.refersTo (now : DateTime) : Constraint → List String
  | .confirmed field => [field]
  | .after date => Calendar.namedBy now date
  | .before date => Calendar.namedBy now date
  | _ => []

/-- The fields whose members settle the complaint about a field: itself and those that the
constraints of its rule refer to. -/
def FieldRule.readsOf (now : DateTime) (field : String) (rule : FieldRule) : List String :=
  field :: rule.constraints.flatMap (Constraint.refersTo now)

theorem DateBound.reads_of {now : DateTime} {parameter : String} {bound : DateBound}
    (h : DateBound.of now parameter = .ok bound) :
    bound.reads = Calendar.namedBy now parameter := by
  unfold DateBound.of at h
  unfold Calendar.namedBy
  cases hr : Calendar.resolve parameter now <;> simp only [hr] at h ⊢ <;> cases h <;> rfl

theorem DateBound.of_of_map {now : DateTime} {parameter : String} {build : DateBound → Check}
    {check : Check}
    (h : ((DateBound.of now parameter).map fun b => some (build b)) = .ok (some check)) :
    ∃ bound, DateBound.of now parameter = .ok bound ∧ build bound = check := by
  cases hb : DateBound.of now parameter with
  | error e => simp [hb, Except.map] at h
  | ok bound =>
      simp only [hb, Except.map, Except.ok.injEq, Option.some.injEq] at h
      exact ⟨bound, rfl, h⟩

theorem Constraint.reads_of_check? {now : DateTime} {c : Constraint} {check : Check}
    (h : c.check? now = some check) : check.reads = c.refersTo now := by
  have ho := of?_of_check? h
  cases c with
  | after date =>
      simp only [Check.of?] at ho
      obtain ⟨bound, hb, rfl⟩ := DateBound.of_of_map ho
      simp only [Check.reads, refersTo]
      exact DateBound.reads_of hb
  | before date =>
      simp only [Check.of?] at ho
      obtain ⟨bound, hb, rfl⟩ := DateBound.of_of_map ho
      simp only [Check.reads, refersTo]
      exact DateBound.reads_of hb
  | pattern text =>
      simp only [Check.of?, Except.ok.injEq, Option.map_eq_some_iff] at ho
      obtain ⟨regex, -, rfl⟩ := ho
      rfl
  | unique table column => simp [Check.of?] at ho
  | existing table column => simp [Check.of?] at ho
  | _ =>
      simp only [Check.of?, Except.ok.injEq, Option.some.injEq] at ho
      subst ho
      rfl

/-- What the checks of a rule read is what its constraints refer to. -/
theorem FieldRule.mem_readsOf {now : DateTime} {field key : String} {rule : FieldRule}
    {check : Check} (hc : check ∈ rule.checks now) (hk : key ∈ check.reads) :
    key ∈ rule.readsOf now field := by
  rcases FieldRule.mem_checks.1 hc with ⟨c, hm, h⟩ | ⟨rfl, -⟩
  · rw [Constraint.reads_of_check? h] at hk
    exact List.mem_cons_of_mem _ (List.mem_flatMap_of_mem hm hk)
  · simp [Check.reads] at hk

/-! ## Isolation -/

/-- Two rule sets with the same rule for a field, and two records with the same members under the
fields which that rule refers to, give the field the same entry in the error map. -/
theorem RuleSet.entry_isolated {now : DateTime} {field : String} {rule : FieldRule}
    {rules₁ rules₂ : RuleSet} (h₁ : rules₁.get? field = some rule)
    (h₂ : rules₂.get? field = some rule)
    (agree : ∀ key ∈ rule.readsOf now field,
      Entries.get? key record₁ = Entries.get? key record₂) :
    (∀ s₁ s₂, Schema.compile now rules₁ = .ok s₁ → Schema.compile now rules₂ = .ok s₂ →
      (s₁.validateRecord record₁).errors.get? field =
        (s₂.validateRecord record₂).errors.get? field) ∧
      (now.HasNeighbours →
        ∃ s₁ s₂, Schema.compile now rules₁ = .ok s₁ ∧ Schema.compile now rules₂ = .ok s₂) := by
  constructor
  · intro s₁ s₂ hs₁ hs₂
    obtain rfl := Schema.eq_schema_of_compile hs₁
    obtain rfl := Schema.eq_schema_of_compile hs₂
    have own := agree field List.mem_cons_self
    have rest : ∀ check ∈ (rule.schema now).checks, ∀ key ∈ check.reads,
        Entries.get? key record₁ = Entries.get? key record₂ := fun check hc key hk =>
      agree key (FieldRule.mem_readsOf hc hk)
    simp only [Schema.get?_validateRecord, RuleSet.get?_schema_fields, h₁, h₂, own,
      Option.map_some, Option.bind_some]
    exact FieldSchema.complaint?_congr rest
  · intro hn
    exact ⟨_, _, Schema.compile_of_hasNeighbours hn rules₁,
      Schema.compile_of_hasNeighbours hn rules₂⟩

/-- The end of a booking is compared with its start and with its confirmation, whatever else the
form asks for and the record holds. -/
theorem RuleSet.booking_entry_isolated :
    let rule : FieldRule :=
      { base := .date, constraints := [.after " start ", .confirmed "end_confirmation"] }
    let rules₁ : RuleSet := OrderedMap.ofList [("start", { base := .date }), ("end", rule)]
    let rules₂ : RuleSet := OrderedMap.ofList
      [("end", rule), ("code", { required := true, constraints := [.pattern "/(?<=a)b/"] })]
    let record₁ : Record := [("end", .string "2025-01-01"), ("start", .string "2025-02-01"),
      ("end_confirmation", .string "2025-01-01")]
    let record₂ : Record := [("code", .null), ("end_confirmation", .string "2025-01-01"),
      ("start", .string "2025-02-01"), ("end", .string "2025-01-01")]
    rules₁.get? "end" = some rule ∧ rules₂.get? "end" = some rule ∧
      rule.readsOf .epoch "end" = ["end", "start", "end_confirmation"] ∧
      ∃ s₁ s₂, Schema.compile .epoch rules₁ = .ok s₁ ∧ Schema.compile .epoch rules₂ = .ok s₂ ∧
        (s₁.validateRecord record₁).errors.get? "end" =
          (s₂.validateRecord record₂).errors.get? "end" := by
  intro rule rules₁ rules₂ record₁ record₂
  have h₁ : rules₁.get? "end" = some rule := by decide
  have h₂ : rules₂.get? "end" = some rule := by decide
  have reads : rule.readsOf .epoch "end" = ["end", "start", "end_confirmation"] := by decide
  have agree : ∀ key ∈ rule.readsOf .epoch "end",
      Entries.get? key record₁ = Entries.get? key record₂ := by
    intro key hk
    rw [reads] at hk
    simp only [List.mem_cons, List.not_mem_nil, or_false] at hk
    rcases hk with rfl | rfl | rfl <;> rfl
  obtain ⟨same, compiled⟩ := RuleSet.entry_isolated h₁ h₂ agree
  obtain ⟨s₁, s₂, hs₁, hs₂⟩ := compiled DateTime.hasNeighbours_epoch
  exact ⟨h₁, h₂, reads, s₁, s₂, hs₁, hs₂, same s₁ s₂ hs₁ hs₂⟩

end FormRules
