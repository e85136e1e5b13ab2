import FormRules.Proofs.Compilation

/-!
# The ends of the calendar

The calendar has a first and a last day, and a clock may stand on either.  There
a rule that asks for the day before or after has no date to compile to, and its
whole rule set has no schema.  Nothing else keeps a rule set from compiling.
-/

namespace FormRules

/-! ## Parameters -/

namespace Calendar

variable {now : DateTime} {parameter : String}

def keyword (parameter : String) : String :=
  Text.lowerAsciiText (Text.trimText parameter)

/-- A parameter asks for a day next to the clock's day, and the calendar does not have it. -/
inductive OutOfReach (now : DateTime) (parameter : String) : Prop where
  | tomorrow (word : keyword parameter = "tomorrow") (last : now.date.days = lastDay)
  | yesterday (word : keyword parameter = "yesterday") (first : now.date.days = firstDay)

theorem Reference.day_eq_beyond_iff {count : Int} :
    Reference.day now count = .beyond ↔
      ¬(firstDay ≤ now.date.days + count ∧ now.date.days + count ≤ lastDay) := by
  unfold Reference.day DateTime.dayAfter? Date.ofDays?
  by_cases inside : firstDay ≤ now.date.days + count ∧ now.date.days + count ≤ lastDay <;>
    simp [inside]

theorem Reference.tomorrow_eq_beyond_iff :
    Reference.day now 1 = .beyond ↔ now.date.days = lastDay := by
  have range := now.date.inRange
  rw [day_eq_beyond_iff]
  omega

theorem Reference.yesterday_eq_beyond_iff :
    Reference.day now (-1) = .beyond ↔ now.date.days = firstDay := by
  have range := now.date.inRange
  rw [day_eq_beyond_iff]
  omega

theorem resolve_eq (parameter : String) (now : DateTime) : resolve parameter now =
    if keyword parameter = "now" then .at now
    else if keyword parameter = "today" then .at (.midnight now.date)
    else if keyword parameter = "tomorrow" then .day now 1
    else if keyword parameter = "yesterday" then .day now (-1)
    else match parse? parameter with
      | some t => .at t
      | none => .name := rfl

theorem resolve_eq_beyond_iff : resolve parameter now = .beyond ↔ OutOfReach now parameter := by
  have reached : resolve parameter now = .beyond ↔
      (keyword parameter = "tomorrow" ∧ Reference.day now 1 = .beyond) ∨
        (keyword parameter = "yesterday" ∧ Reference.day now (-1) = .beyond) := by
    rw [resolve_eq]
    split
    · simp_all
    split
    · simp_all
    split
    · simp_all
    split
    · simp_all
    split <;> simp_all
  rw [reached, Reference.tomorrow_eq_beyond_iff, Reference.yesterday_eq_beyond_iff]
  constructor
  · rintro (⟨word, last⟩ | ⟨word, first⟩)
    · exact .tomorrow word last
    · exact .yesterday word first
  · rintro (⟨word, last⟩ | ⟨word, first⟩)
    · exact .inl ⟨word, last⟩
    · exact .inr ⟨word, first⟩

end Calendar

theorem DateBound.of_eq_error_iff {now : DateTime} {parameter : String} :
    DateBound.of now parameter = .error .mk ↔ Calendar.OutOfReach now parameter := by
  rw [← Calendar.resolve_eq_beyond_iff]
  unfold DateBound.of
  cases Calendar.resolve parameter now <;> simp

theorem DateBound.of_eq_ok {now : DateTime} {parameter : String}
    (reached : ¬Calendar.OutOfReach now parameter) :
    DateBound.of now parameter = .ok (.field (Text.trimText parameter)) ∨
      ∃ t, DateBound.of now parameter = .ok (.at t) := by
  rw [← Calendar.resolve_eq_beyond_iff] at reached
  unfold DateBound.of
  cases h : Calendar.resolve parameter now with
  | «at» t => exact .inr ⟨t, rfl⟩
  | name => exact .inl rfl
  | beyond => exact absurd h reached

/-! ## Constraints and rules -/

def Constraint.dates : Constraint → List String
  | .after date => [date]
  | .before date => [date]
  | _ => []

theorem Constraint.isBeyond_iff {now : DateTime} {c : Constraint} :
    c.isBeyond now = true ↔ ∃ date ∈ c.dates, Calendar.OutOfReach now date := by
  simp only [← DateBound.of_eq_error_iff]
  unfold isBeyond
  cases c with
  | after date => cases h : DateBound.of now date <;> simp [Check.of?, dates, h, Except.map]
  | before date => cases h : DateBound.of now date <;> simp [Check.of?, dates, h, Except.map]
  | _ => simp [dates, Check.of?]

namespace RuleSet

def dates (rules : RuleSet) : List String :=
  rules.entries.flatMap fun e => e.2.constraints.flatMap Constraint.dates

theorem isBeyond_iff {now : DateTime} {rules : RuleSet} :
    rules.isBeyond now = true ↔ ∃ date ∈ rules.dates, Calendar.OutOfReach now date := by
  unfold isBeyond FieldRule.isBeyond dates
  simp only [List.any_eq_true, Constraint.isBeyond_iff, List.mem_flatMap]
  constructor
  · rintro ⟨e, he, c, hc, date, hd, out⟩
    exact ⟨date, ⟨e, he, c, hc, hd⟩, out⟩
  · rintro ⟨date, ⟨e, he, c, hc, hd⟩, out⟩
    exact ⟨e, he, c, hc, date, hd, out⟩

theorem isBeyond_of_get? {now : DateTime} {rules : RuleSet} {field : String} {rule : FieldRule}
    (inside : rules.isBeyond now = false) (known : rules.get? field = some rule) :
    rule.isBeyond now = false := by
  unfold isBeyond at inside
  rw [List.any_eq_false] at inside
  simpa using inside (field, rule) (OrderedMap.mem_entries_of_get? known)

/-- A rule set has a schema, with the schema of every rule in the place of the rule, unless one of
its dates asks for a day next to the clock's day that the calendar does not have; then it has none.
Any other date is compiled, to an instant or to the field of its name. -/
theorem compiles_within_reach (now : DateTime) (rules : RuleSet) :
    (Schema.compile now rules = .error .mk ↔
      ∃ date ∈ rules.dates, Calendar.OutOfReach now date) ∧
    (∀ s, Schema.compile now rules = .ok s →
      s.fields.keys = rules.keys ∧
      ∀ field rule, rules.get? field = some rule →
        ∃ f, FieldSchema.compile now rule = .ok f ∧ s.fields.get? field = some f) ∧
    ∀ date, ¬Calendar.OutOfReach now date →
      DateBound.of now date = .ok (.field (Text.trimText date)) ∨
        ∃ t, DateBound.of now date = .ok (.at t) := by
  have total := Schema.compile_eq now rules
  cases hb : rules.isBeyond now with
  | true =>
      rw [hb, if_pos rfl] at total
      refine ⟨?_, fun s compiled => ?_, fun date => DateBound.of_eq_ok⟩
      · simp [total, ← isBeyond_iff, hb]
      · rw [total] at compiled
        cases compiled
  | false =>
      rw [hb, if_neg (by simp)] at total
      refine ⟨?_, fun s compiled => ?_, fun date => DateBound.of_eq_ok⟩
      · simp [total, ← isBeyond_iff, hb]
      · obtain rfl := Schema.eq_schema_of_compile compiled
        refine ⟨Entries.keys_map fun e : String × FieldRule => e.2.schema now, ?_⟩
        intro field rule known
        refine ⟨rule.schema now, ?_, ?_⟩
        · rw [FieldSchema.compile_eq, isBeyond_of_get? hb known]
          rfl
        · rw [get?_schema_fields, known]
          rfl

/-- On the last day a single rule that names the next one keeps the other fields from compiling. -/
theorem last_day_without_schema :
    Schema.compile (.midnight ⟨Calendar.lastDay, by decide⟩)
      (OrderedMap.ofList
        [("name", { required := true }),
          ("start", { base := .date, constraints := [.after "tomorrow"] })]) = .error .mk := by
  rw [Schema.compile_eq, if_pos (by decide)]

end RuleSet

end FormRules
