import FormRules.Proofs.OrderedMap
import FormRules.Schema.Basic

/-!
# What compiling gives

Compiling in closed form: a rule set has a schema unless one of its date
constraints names a day beyond the calendar, and then every field of the schema
is the schema of that field's rule alone.
-/

namespace FormRules

/-! ## Constraints -/

namespace Constraint

def check? (now : DateTime) (c : Constraint) : Option Check :=
  match Check.of? now c with
  | .ok check => check
  | .error _ => none

/-- Whether a constraint names a day beyond the calendar. -/
def isBeyond (now : DateTime) (c : Constraint) : Bool :=
  match Check.of? now c with
  | .ok _ => false
  | .error _ => true

theorem of?_of_check? {now : DateTime} {c : Constraint} {check : Check}
    (h : c.check? now = some check) : Check.of? now c = .ok (some check) := by
  unfold check? at h
  split at h
  · rename_i hc
    rw [hc, h]
  · cases h

theorem check?_of_isBeyond {now : DateTime} {c : Constraint} (h : c.isBeyond now = true) :
    c.check? now = none := by
  unfold isBeyond at h
  unfold check?
  cases hc : Check.of? now c with
  | error overflow => rfl
  | ok check => simp [hc] at h

theorem mapM_check (now : DateTime) (constraints : List Constraint) :
    constraints.mapM (Check.of? now) =
      if constraints.any (isBeyond now) then .error .mk
      else .ok (constraints.map (check? now)) := by
  induction constraints with
  | nil => rfl
  | cons c rest ih =>
      rw [List.mapM_cons, ih, List.any_cons, List.map_cons]
      unfold isBeyond check?
      cases h : Check.of? now c with
      | error e => rfl
      | ok check =>
          simp only [Bool.false_or]
          split <;> rfl

end Constraint

/-! ## Fields -/

namespace FieldRule

def isBeyond (now : DateTime) (rule : FieldRule) : Bool :=
  rule.constraints.any (Constraint.isBeyond now)

/-- The checks of a rule: those of its constraints, then the one against empty texts. -/
def checks (now : DateTime) (rule : FieldRule) : List Check :=
  rule.constraints.filterMap (Constraint.check? now) ++
    if rule.required && rule.base = .string then [.notEmpty] else []

def schema (now : DateTime) (rule : FieldRule) : FieldSchema :=
  { base := rule.base, required := rule.required, nullable := rule.nullable,
    checks := rule.checks now }

@[simp] theorem schema_base (now : DateTime) (rule : FieldRule) :
    (rule.schema now).base = rule.base := rfl

@[simp] theorem schema_required (now : DateTime) (rule : FieldRule) :
    (rule.schema now).required = rule.required := rfl

@[simp] theorem schema_nullable (now : DateTime) (rule : FieldRule) :
    (rule.schema now).nullable = rule.nullable := rfl

@[simp] theorem schema_checks (now : DateTime) (rule : FieldRule) :
    (rule.schema now).checks = rule.checks now := rfl

theorem mem_checks {now : DateTime} {rule : FieldRule} {check : Check} :
    check ∈ rule.checks now ↔
      (∃ c ∈ rule.constraints, c.check? now = some check) ∨
        (check = .notEmpty ∧ rule.required = true ∧ rule.base = .string) := by
  unfold checks
  rw [List.mem_append, List.mem_filterMap]
  by_cases h : rule.required = true ∧ rule.base = .string
  · simp [h.1, h.2]
  · rw [if_neg (by simpa using h)]
    simp [h]

end FieldRule

theorem FieldSchema.compile_eq (now : DateTime) (rule : FieldRule) :
    FieldSchema.compile now rule =
      if rule.isBeyond now then .error .mk else .ok (rule.schema now) := by
  unfold FieldSchema.compile FieldRule.isBeyond
  rw [Constraint.mapM_check]
  split
  · rfl
  · simp only [bind, Except.bind, pure, Except.pure, FieldRule.schema, FieldRule.checks]
    rw [List.filterMap_map]
    rfl

/-! ## Rule sets -/

namespace RuleSet

def isBeyond (now : DateTime) (rules : RuleSet) : Bool :=
  rules.entries.any fun e => e.2.isBeyond now

def schema (now : DateTime) (rules : RuleSet) : Schema :=
  { fields := rules.mapValues fun _ rule => rule.schema now
    issues := rules.entries.flatMap fun e => Schema.issuesOf e.1 e.2 }

@[simp] theorem get?_schema_fields (now : DateTime) (rules : RuleSet) (field : String) :
    (rules.schema now).fields.get? field = (rules.get? field).map (FieldRule.schema now) :=
  OrderedMap.get?_mapValues rules _

end RuleSet

namespace Schema

theorem compileFields_eq (now : DateTime) (entries : List (String × FieldRule)) :
    compileFields now entries =
      if entries.any fun e => e.2.isBeyond now then .error .mk
      else .ok (entries.map fun e => (e.1, e.2.schema now)) := by
  induction entries with
  | nil => rfl
  | cons e rest ih =>
      obtain ⟨field, rule⟩ := e
      simp only [compileFields, ih, FieldSchema.compile_eq, List.any_cons, List.map_cons]
      cases rule.isBeyond now with
      | true => rfl
      | false =>
          simp only [Bool.false_or]
          cases rest.any fun e => e.2.isBeyond now <;> rfl

theorem compile_eq (now : DateTime) (rules : RuleSet) :
    compile now rules = if rules.isBeyond now then .error .mk else .ok (rules.schema now) := by
  unfold compile RuleSet.isBeyond
  rw [compileFields_eq]
  split
  · rfl
  · have hf : OrderedMap.ofList (rules.entries.map fun e => (e.1, e.2.schema now)) =
        rules.mapValues fun _ rule => rule.schema now :=
      OrderedMap.ofList_entries (rules.mapValues fun _ rule => rule.schema now)
    simp only [bind, Except.bind, pure, Except.pure, hf]
    rfl

theorem eq_schema_of_compile {now : DateTime} {rules : RuleSet} {s : Schema}
    (h : compile now rules = .ok s) : s = rules.schema now := by
  rw [compile_eq] at h
  split at h
  · cases h
  · cases h
    rfl

end Schema

/-! ## Clocks -/

/-- The days before and after a clock's day are days of the calendar. -/
def DateTime.HasNeighbours (now : DateTime) : Prop :=
  Calendar.firstDay < now.date.days ∧ now.date.days < Calendar.lastDay

theorem DateTime.hasNeighbours_epoch : DateTime.epoch.HasNeighbours := by
  constructor <;> decide

theorem Calendar.Reference.day_ne_beyond {now : DateTime} (h : now.HasNeighbours) {count : Int}
    (hc : -1 ≤ count ∧ count ≤ 1) : Calendar.Reference.day now count ≠ .beyond := by
  have hr : Calendar.firstDay ≤ now.date.days + count ∧
      now.date.days + count ≤ Calendar.lastDay := by
    have h1 := h.1
    have h2 := h.2
    omega
  simp [Calendar.Reference.day, DateTime.dayAfter?, Date.ofDays?, hr]

theorem Calendar.resolve_ne_beyond {now : DateTime} (h : now.HasNeighbours) (parameter : String) :
    Calendar.resolve parameter now ≠ .beyond := by
  unfold Calendar.resolve
  dsimp only
  split
  · simp
  split
  · simp
  split
  · exact Calendar.Reference.day_ne_beyond h (by decide)
  split
  · exact Calendar.Reference.day_ne_beyond h (by decide)
  split <;> simp

theorem Constraint.isBeyond_eq_false {now : DateTime} (h : now.HasNeighbours) (c : Constraint) :
    c.isBeyond now = false := by
  have hb (parameter : String) : ∃ b, DateBound.of now parameter = .ok b := by
    unfold DateBound.of
    cases hr : Calendar.resolve parameter now with
    | «at» t => exact ⟨_, rfl⟩
    | beyond => exact absurd hr (Calendar.resolve_ne_beyond h parameter)
    | name => exact ⟨_, rfl⟩
  cases c with
  | after date =>
      obtain ⟨b, hd⟩ := hb date
      simp [isBeyond, Check.of?, hd, Except.map]
  | before date =>
      obtain ⟨b, hd⟩ := hb date
      simp [isBeyond, Check.of?, hd, Except.map]
  | _ => rfl

theorem FieldRule.isBeyond_eq_false {now : DateTime} (h : now.HasNeighbours) (rule : FieldRule) :
    rule.isBeyond now = false := by
  simp [isBeyond, Constraint.isBeyond_eq_false h]

theorem RuleSet.isBeyond_eq_false {now : DateTime} (h : now.HasNeighbours) (rules : RuleSet) :
    rules.isBeyond now = false := by
  simp [isBeyond, FieldRule.isBeyond_eq_false h]

/-- Only at the ends of the calendar is there a rule that does not compile. -/
theorem FieldSchema.compile_eq_error_or (now : DateTime) (rule : FieldRule) :
    (compile now rule = .error .mk ∧ ¬now.HasNeighbours) ∨
      compile now rule = .ok (rule.schema now) := by
  rw [compile_eq]
  cases hb : rule.isBeyond now with
  | false => exact .inr rfl
  | true =>
      refine .inl ⟨rfl, fun h => ?_⟩
      rw [FieldRule.isBeyond_eq_false h] at hb
      cases hb

/-- Every rule set has a schema for a clock inside the calendar. -/
theorem Schema.compile_of_hasNeighbours {now : DateTime} (h : now.HasNeighbours) (rules : RuleSet) :
    Schema.compile now rules = .ok (rules.schema now) := by
  rw [Schema.compile_eq, RuleSet.isBeyond_eq_false h]
  rfl

end FormRules
