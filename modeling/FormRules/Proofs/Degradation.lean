import FormRules.Proofs.Compilation

/-!
# Degradation

Compiling leaves out what it cannot check: a pattern that the engine rejects,
and the constraints that only the server can check.  The pass below goes over
the fields once with an arbitrary engine and gathers the issues on its way.  It
gives what the rules without the constraints left out would give, and its issues
are the rejected patterns, one by one.
-/

namespace FormRules

/-! ## One pass over the rules -/

/-- An engine for regular expressions: what it makes of a pattern, unless it rejects it. -/
abbrev Engine := String → Option Regex

inductive Constraint.Outcome where
  | check (c : Check)
  /-- The constraint is left to the server. -/
  | server
  | issue (pattern : String)

def Constraint.outcome (engine : Engine) (now : DateTime) :
    Constraint → Except ClockOverflow Outcome
  | .pattern text =>
    match engine (Pattern.undelimitedText text) with
    | some regex => .ok (.check (.pattern regex))
    | none => .ok (.issue text)
  | c =>
    match Check.of? now c with
    | .ok (some check) => .ok (.check check)
    | .ok none => .ok .server
    | .error overflow => .error overflow

/-- Go over the constraints of a field, with the checks of the field and the issues of the schema
that there are so far. -/
def FieldSchema.collect (engine : Engine) (now : DateTime) (field : String) :
    List Constraint → List Check → List CompileIssue →
      Except ClockOverflow (List Check × List CompileIssue)
  | [], checks, issues => .ok (checks, issues)
  | c :: rest, checks, issues =>
    match c.outcome engine now with
    | .ok (.check check) => collect engine now field rest (checks ++ [check]) issues
    | .ok .server => collect engine now field rest checks issues
    | .ok (.issue pattern) => collect engine now field rest checks (issues ++ [⟨field, pattern⟩])
    | .error overflow => .error overflow

def FieldSchema.compileOnto (engine : Engine) (now : DateTime) (field : String) (rule : FieldRule)
    (issues : List CompileIssue) : Except ClockOverflow (FieldSchema × List CompileIssue) := do
  let (checks, issues) ← collect engine now field rule.constraints [] issues
  let last := if rule.required && rule.base = .string then [Check.notEmpty] else []
  return (⟨rule.base, rule.required, rule.nullable, checks ++ last⟩, issues)

/-- Go over the fields of a rule set, with the schema that there is so far. -/
def Schema.compileOnto (engine : Engine) (now : DateTime) :
    List (String × FieldRule) → Schema → Except ClockOverflow Schema
  | [], s => .ok s
  | (field, rule) :: rest, s => do
    let (f, issues) ← FieldSchema.compileOnto engine now field rule s.issues
    compileOnto engine now rest ⟨s.fields.insert field f, issues⟩

def Schema.compileWith (engine : Engine) (now : DateTime) (rules : RuleSet) :
    Except ClockOverflow Schema :=
  compileOnto engine now rules.entries empty

/-! ## The pass in closed form -/

variable {engine : Engine} {now : DateTime}

namespace Constraint

def checkWith? (engine : Engine) (now : DateTime) (c : Constraint) : Option Check :=
  match c.outcome engine now with
  | .ok (.check check) => some check
  | _ => none

def rejected? (engine : Engine) : Constraint → Option String
  | .pattern text =>
    match engine (Pattern.undelimitedText text) with
    | some _ => none
    | none => some text
  | _ => none

/-- Whether a constraint is checked by the form. -/
def isEffective (engine : Engine) : Constraint → Bool
  | .pattern text => (engine (Pattern.undelimitedText text)).isSome
  | .unique _ _ => false
  | .existing _ _ => false
  | _ => true

/-- What becomes of a constraint, and what its outcome says of it otherwise. -/
theorem outcome_cases (engine : Engine) (now : DateTime) (c : Constraint) :
    (∃ check, c.outcome engine now = .ok (.check check) ∧ c.isEffective engine = true ∧
        c.checkWith? engine now = some check ∧ c.rejected? engine = none ∧
        c.isBeyond now = false) ∨
      (c.outcome engine now = .ok .server ∧ c.isEffective engine = false ∧
        c.checkWith? engine now = none ∧ c.rejected? engine = none ∧ c.isBeyond now = false) ∨
      (∃ pattern, c.outcome engine now = .ok (.issue pattern) ∧ c.isEffective engine = false ∧
        c.checkWith? engine now = none ∧ c.rejected? engine = some pattern ∧
        c.isBeyond now = false) ∨
      (c.outcome engine now = .error .mk ∧ c.isEffective engine = true ∧
        c.rejected? engine = none ∧ c.isBeyond now = true) := by
  cases c with
  | pattern text =>
      cases h : engine (Pattern.undelimitedText text) <;>
        simp [outcome, checkWith?, h, isEffective, rejected?, isBeyond, Check.of?]
  | after date =>
      cases h : DateBound.of now date <;>
        simp [outcome, checkWith?, Check.of?, h, Except.map, isEffective, rejected?, isBeyond]
  | before date =>
      cases h : DateBound.of now date <;>
        simp [outcome, checkWith?, Check.of?, h, Except.map, isEffective, rejected?, isBeyond]
  | _ => simp [outcome, checkWith?, Check.of?, isEffective, rejected?, isBeyond]

theorem checkWith?_of_not_effective {c : Constraint} (h : c.isEffective engine = false) :
    c.checkWith? engine now = none ∧ c.isBeyond now = false := by
  rcases outcome_cases engine now c with ⟨_, _, he, _⟩ | ⟨_, _, hk, _, hb⟩ |
    ⟨_, _, _, hk, _, hb⟩ | ⟨_, he, _⟩
  · rw [h] at he
    cases he
  · exact ⟨hk, hb⟩
  · exact ⟨hk, hb⟩
  · rw [h] at he
    cases he

theorem rejected?_of_effective {c : Constraint} (h : c.isEffective engine = true) :
    c.rejected? engine = none := by
  rcases outcome_cases engine .epoch c with ⟨_, _, _, _, hr, _⟩ | ⟨_, _, _, hr, _⟩ |
    ⟨_, _, he, _⟩ | ⟨_, _, hr, _⟩
  · exact hr
  · exact hr
  · rw [h] at he
    cases he
  · exact hr

theorem checkWith?_compile? : checkWith? Regex.compile? now = check? now := by
  funext c
  cases c with
  | pattern text =>
      cases h : Regex.compile? (Pattern.undelimitedText text) <;>
        simp [checkWith?, outcome, check?, Check.of?, h]
  | after date =>
      cases h : DateBound.of now date <;>
        simp [checkWith?, outcome, check?, Check.of?, h, Except.map]
  | before date =>
      cases h : DateBound.of now date <;>
        simp [checkWith?, outcome, check?, Check.of?, h, Except.map]
  | _ => rfl

theorem rejected?_compile? : rejected? Regex.compile? = brokenPattern? := by
  funext c
  cases c <;> rfl

end Constraint

namespace FieldRule

def schemaWith (engine : Engine) (now : DateTime) (rule : FieldRule) : FieldSchema :=
  ⟨rule.base, rule.required, rule.nullable,
    rule.constraints.filterMap (Constraint.checkWith? engine now) ++
      if rule.required && rule.base = .string then [.notEmpty] else []⟩

def issuesWith (engine : Engine) (field : String) (rule : FieldRule) : List CompileIssue :=
  (rule.constraints.filterMap (Constraint.rejected? engine)).map fun pattern => ⟨field, pattern⟩

end FieldRule

theorem FieldSchema.collect_eq (field : String) (constraints : List Constraint)
    (checks : List Check) (issues : List CompileIssue) :
    collect engine now field constraints checks issues =
      if constraints.any (Constraint.isBeyond now) then .error .mk
      else .ok (checks ++ constraints.filterMap (Constraint.checkWith? engine now),
        issues ++ (constraints.filterMap (Constraint.rejected? engine)).map fun pattern =>
          ⟨field, pattern⟩) := by
  induction constraints generalizing checks issues with
  | nil => simp [collect]
  | cons c rest ih =>
      unfold collect
      rcases Constraint.outcome_cases engine now c with ⟨check, ho, _, hk, hr, hb⟩ |
        ⟨ho, _, hk, hr, hb⟩ | ⟨pattern, ho, _, hk, hr, hb⟩ | ⟨ho, _, hr, hb⟩
      · simp [ho, ih, hb, hk, hr]
      · simp [ho, ih, hb, hk, hr]
      · simp [ho, ih, hb, hk, hr]
      · simp [ho, hb]

theorem FieldSchema.compileOnto_eq (field : String) (rule : FieldRule)
    (issues : List CompileIssue) :
    compileOnto engine now field rule issues =
      if rule.isBeyond now then .error .mk
      else .ok (rule.schemaWith engine now, issues ++ rule.issuesWith engine field) := by
  unfold compileOnto FieldRule.isBeyond
  rw [collect_eq]
  split <;> rfl

namespace RuleSet

def schemaWith (engine : Engine) (now : DateTime) (rules : RuleSet) : Schema :=
  { fields := rules.mapValues fun _ rule => rule.schemaWith engine now
    issues := rules.entries.flatMap fun e => e.2.issuesWith engine e.1 }

end RuleSet

namespace Schema

theorem compileOnto_eq (entries : List (String × FieldRule)) (s : Schema) :
    compileOnto engine now entries s =
      if entries.any fun e => e.2.isBeyond now then .error .mk
      else .ok ⟨s.fields.insertAll (entries.map fun e => (e.1, e.2.schemaWith engine now)),
        s.issues ++ entries.flatMap fun e => e.2.issuesWith engine e.1⟩ := by
  induction entries generalizing s with
  | nil => simp [compileOnto, OrderedMap.insertAll]
  | cons e rest ih =>
      obtain ⟨field, rule⟩ := e
      simp only [compileOnto, FieldSchema.compileOnto_eq, List.any_cons]
      by_cases hb : rule.isBeyond now = true
      · simp [hb, bind, Except.bind]
      · simp only [hb, Bool.false_eq_true, if_false, bind, Except.bind, Bool.false_or, ih]
        split
        · rfl
        · simp [OrderedMap.insertAll]

theorem compileWith_eq (engine : Engine) (now : DateTime) (rules : RuleSet) :
    compileWith engine now rules =
      if rules.isBeyond now then .error .mk else .ok (rules.schemaWith engine now) := by
  have hf : empty.fields.insertAll (rules.entries.map fun e => (e.1, e.2.schemaWith engine now)) =
      rules.mapValues fun _ rule => rule.schemaWith engine now :=
    OrderedMap.ofList_entries (rules.mapValues fun _ rule => rule.schemaWith engine now)
  unfold compileWith RuleSet.isBeyond
  rw [compileOnto_eq, hf]
  rfl

theorem compile_eq_compileWith : compile = compileWith Regex.compile? := by
  funext now rules
  rw [compile_eq, compileWith_eq]
  simp only [RuleSet.schema, RuleSet.schemaWith, FieldRule.schemaWith, FieldRule.issuesWith,
    FieldRule.schema, FieldRule.checks, issuesOf, Constraint.checkWith?_compile?,
    Constraint.rejected?_compile?, List.map_filterMap]

end Schema

/-! ## Rules without what is left out -/

/-- The rule without the constraints that the form does not check. -/
def FieldRule.effective (engine : Engine) (rule : FieldRule) : FieldRule :=
  { rule with constraints := rule.constraints.filter (Constraint.isEffective engine) }

def RuleSet.effective (engine : Engine) (rules : RuleSet) : RuleSet :=
  rules.mapValues fun _ rule => rule.effective engine

def Constraint.pattern? : Constraint → Option String
  | .pattern text => some text
  | _ => none

theorem Constraint.rejected?_eq_filter (c : Constraint) :
    c.rejected? engine =
      c.pattern?.filter fun text => (engine (Pattern.undelimitedText text)).isNone := by
  cases c with
  | pattern text =>
      cases h : engine (Pattern.undelimitedText text) <;>
        simp [rejected?, pattern?, Option.filter, h]
  | _ => rfl

def RuleSet.patterns (rules : RuleSet) : List (String × String) :=
  rules.entries.flatMap fun e => (e.2.constraints.filterMap Constraint.pattern?).map fun text =>
    (e.1, text)

namespace FieldRule

variable (rule : FieldRule)

theorem isBeyond_effective : (rule.effective engine).isBeyond now = rule.isBeyond now := by
  unfold isBeyond effective
  rw [List.any_filter]
  congr 1
  funext c
  cases h : c.isEffective engine with
  | true => rfl
  | false => rw [(Constraint.checkWith?_of_not_effective h).2]; rfl

/-- What is left out has no check, so the checks that stay are the same in the same order. -/
theorem schemaWith_effective :
    (rule.effective engine).schemaWith engine now = rule.schemaWith engine now := by
  have checks : (rule.effective engine).constraints.filterMap (Constraint.checkWith? engine now) =
      rule.constraints.filterMap (Constraint.checkWith? engine now) := by
    unfold effective
    rw [List.filterMap_filter]
    congr 1
    funext c
    cases h : c.isEffective engine with
    | true => rfl
    | false => rw [(Constraint.checkWith?_of_not_effective h).1]; rfl
  unfold schemaWith
  rw [checks]
  rfl

theorem issuesWith_effective (field : String) :
    (rule.effective engine).issuesWith engine field = [] := by
  unfold issuesWith effective
  rw [List.map_eq_nil_iff, List.filterMap_eq_nil_iff]
  intro c hc
  exact Constraint.rejected?_of_effective (List.mem_filter.1 hc).2

theorem issuesWith_eq (field : String) :
    (rule.issuesWith engine field).map (fun i => (i.field, i.pattern)) =
      ((rule.constraints.filterMap Constraint.pattern?).map fun text => (field, text)).filter
        fun p => (engine (Pattern.undelimitedText p.2)).isNone := by
  have rejected : rule.constraints.filterMap (Constraint.rejected? engine) =
      (rule.constraints.filterMap Constraint.pattern?).filter
        fun text => (engine (Pattern.undelimitedText text)).isNone := by
    rw [List.filter_filterMap]
    congr 1
    funext c
    exact Constraint.rejected?_eq_filter c
  unfold issuesWith
  rw [rejected, List.map_map, List.filter_map]
  rfl

end FieldRule

namespace RuleSet

variable (rules : RuleSet)

theorem isBeyond_effective : (rules.effective engine).isBeyond now = rules.isBeyond now := by
  simp [isBeyond, effective, OrderedMap.mapValues, List.any_map, Function.comp_def,
    FieldRule.isBeyond_effective]

theorem fields_effective : ((rules.effective engine).schemaWith engine now).fields =
    (rules.schemaWith engine now).fields := by
  apply OrderedMap.ext
  simp [schemaWith, effective, OrderedMap.mapValues, Function.comp_def,
    FieldRule.schemaWith_effective]

theorem issues_effective : ((rules.effective engine).schemaWith engine now).issues = [] := by
  simp only [schemaWith, effective, OrderedMap.mapValues, List.flatMap_map,
    FieldRule.issuesWith_effective]
  exact List.flatMap_eq_nil_iff.2 fun _ _ => rfl

/-- The issues are the rejected ones among the declared patterns. -/
theorem issues_eq_filter_patterns :
    (rules.schemaWith engine now).issues.map (fun i => (i.field, i.pattern)) =
      rules.patterns.filter fun p => (engine (Pattern.undelimitedText p.2)).isNone := by
  simp only [schemaWith, patterns, List.map_flatMap, List.filter_flatMap, FieldRule.issuesWith_eq]

end RuleSet

/-- What a schema says depends on its fields alone. -/
theorem Schema.verdicts_congr {s t : Schema} (h : s.fields = t.fields) :
    (∀ record, s.validateRecord record = t.validateRecord record) ∧
      ∀ field value, s.fieldComplaint? field value = t.fieldComplaint? field value := by
  unfold validateRecord complaints fieldComplaint?
  rw [h]
  exact ⟨fun _ => rfl, fun _ _ => rfl⟩

/-- Whatever the engine rejects, a rule set and the same rules without what the form leaves out say
the same about every record and every value of a field.  The issues are the rejected patterns as
they are declared, each as often and in the order in which it occurs; without the constraints left
out there are none.  Only at the ends of the calendar is there a rule set that does not compile, and
then neither does. -/
theorem Schema.degradation_exact (engine : Engine) (now : DateTime) (rules : RuleSet) :
    compile = compileWith Regex.compile? ∧
      ((compileWith engine now rules = .error .mk ∧
          compileWith engine now (rules.effective engine) = .error .mk ∧ ¬now.HasNeighbours) ∨
        ∃ s t, compileWith engine now rules = .ok s ∧
          compileWith engine now (rules.effective engine) = .ok t ∧
          (∀ record, s.validateRecord record = t.validateRecord record) ∧
          (∀ field value, s.fieldComplaint? field value = t.fieldComplaint? field value) ∧
          s.issues.map (fun i => (i.field, i.pattern)) =
            rules.patterns.filter (fun p => (engine (Pattern.undelimitedText p.2)).isNone) ∧
          t.issues = []) := by
  refine ⟨compile_eq_compileWith, ?_⟩
  rw [compileWith_eq, compileWith_eq, RuleSet.isBeyond_effective]
  cases hb : rules.isBeyond now with
  | true =>
      refine .inl ⟨rfl, rfl, fun h => ?_⟩
      rw [RuleSet.isBeyond_eq_false h] at hb
      cases hb
  | false =>
      have same : (rules.schemaWith engine now).fields =
          ((rules.effective engine).schemaWith engine now).fields := rules.fields_effective.symm
      obtain ⟨records, values⟩ := verdicts_congr same
      exact .inr ⟨_, _, rfl, rfl, records, values, rules.issues_eq_filter_patterns,
        rules.issues_effective⟩

/-- A rejected pattern is noted as often as it is declared, and as it is declared. -/
example :
    let rules : RuleSet := OrderedMap.ofList
      [("code", { constraints := [.pattern "/(?<=a)b/", .unique none none, .pattern "^a$"] }),
        ("name", { required := true, constraints := [.pattern "#(?<=a)b#i"] })]
    (rules.schemaWith Regex.compile? .epoch).issues =
      [⟨"code", "/(?<=a)b/"⟩, ⟨"name", "#(?<=a)b#i"⟩] := by
  decide

end FormRules
