import FormRules.Proofs.CalendarEnds
import FormRules.Proofs.DateText

/-!
# Keywords of the clock

A date constraint may name a day by a word that is read against the clock.  Such
a word is an abbreviation: written out as the date that it stands for on a day,
it compiles to the same bound under every clock.  Nothing else in a rule set
depends on the clock.
-/

namespace FormRules

/-! ## Parameters -/

namespace Calendar

def IsKeyword (parameter : String) : Prop :=
  keyword parameter ∈ ["now", "today", "tomorrow", "yesterday"]

instance (parameter : String) : Decidable (IsKeyword parameter) :=
  inferInstanceAs (Decidable (_ ∈ _))

/-- The date that a keyword stands for on a day. -/
def named? (today : Date) (parameter : String) : Option Date :=
  if keyword parameter = "now" ∨ keyword parameter = "today" then some today
  else if keyword parameter = "tomorrow" then Date.ofDays? (today.days + 1)
  else if keyword parameter = "yesterday" then Date.ofDays? (today.days - 1)
  else none

/-- A parameter with the date written out that it stands for on a day, if it is a keyword. -/
def spelled (today : Date) (parameter : String) : String :=
  match named? today parameter with
  | some date => String.ofList date.text
  | none => parameter

theorem resolve_of_not_isKeyword {parameter : String} (h : ¬IsKeyword parameter)
    (now : DateTime) : resolve parameter now = (parse? parameter).elim .name .at := by
  simp only [IsKeyword, List.mem_cons, List.not_mem_nil, or_false, not_or] at h
  simp only [resolve_eq, h, if_false]
  cases parse? parameter <;> rfl

theorem not_isKeyword_of_digit {parameter : String} {c : Char} {cs : List Char}
    (trimmed : Text.trim parameter.toList = c :: cs) (digit : Text.isAsciiDigit c = true) :
    ¬IsKeyword parameter := by
  have small : Text.lowerAscii c = c := by
    simp only [Text.isAsciiDigit, Bool.and_eq_true, decide_eq_true_eq] at digit
    unfold Text.lowerAscii
    rw [if_neg (by simp only [Bool.and_eq_true, decide_eq_true_eq]; omega)]
  have word : (keyword parameter).toList = c :: cs.map Text.lowerAscii := by
    simp only [keyword, Text.lowerAsciiText, Text.trimText, String.toList_ofList, trimmed]
    rw [List.map_cons, small]
  intro h
  simp only [IsKeyword, List.mem_cons, List.not_mem_nil, or_false] at h
  rcases h with h | h | h | h
  all_goals
    rw [h] at word
    obtain ⟨rfl, -⟩ := List.cons.inj word
    exact absurd digit (by decide)

theorem not_isKeyword_text {d : Date} (four : d.FourDigits) :
    ¬IsKeyword (String.ofList d.text) := by
  obtain ⟨c, cs, front, digit⟩ := text_eq_cons four
  have trimmed : Text.trim (String.ofList d.text).toList = c :: cs := by
    rw [String.toList_ofList, Text.trim_of_isTrimmed (isTrimmed_text four), front]
  exact not_isKeyword_of_digit trimmed digit

theorem resolve_text {d : Date} (four : d.FourDigits) (now : DateTime) :
    resolve (String.ofList d.text) now = .at (.midnight d) := by
  rw [resolve_of_not_isKeyword (not_isKeyword_text four), parse?_text four]
  rfl

variable {today date : Date} {parameter : String}

theorem resolve_named? (named : named? today parameter = some date) :
    resolve parameter (.midnight today) = .at (.midnight date) := by
  rw [resolve_eq]
  unfold named? at named
  by_cases now : keyword parameter = "now"
  · rw [if_pos (.inl now), Option.some.injEq] at named
    rw [if_pos now, named]
  by_cases this : keyword parameter = "today"
  · rw [if_pos (.inr this), Option.some.injEq] at named
    rw [if_neg now, if_pos this]
    exact congrArg (fun d => Reference.at (.midnight d)) named
  rw [if_neg (by simp [now, this])] at named
  rw [if_neg now, if_neg this]
  by_cases tomorrow : keyword parameter = "tomorrow"
  · rw [if_pos tomorrow] at named
    rw [if_pos tomorrow, Reference.day, DateTime.dayAfter?]
    simp [DateTime.midnight, named]
  rw [if_neg tomorrow] at named
  by_cases yesterday : keyword parameter = "yesterday"
  · rw [if_pos yesterday, Int.sub_eq_add_neg] at named
    rw [if_neg tomorrow, if_pos yesterday, Reference.day, DateTime.dayAfter?]
    simp [DateTime.midnight, named]
  · rw [if_neg yesterday] at named
    cases named

theorem exists_named? (first : 1 ≤ today.civil.year) (last : today.civil.year ≤ 9998)
    (h : IsKeyword parameter) : ∃ date, named? today parameter = some date ∧ date.FourDigits := by
  obtain ⟨after, before⟩ := Date.neighbours_fourDigits first last
  have same : today.FourDigits := ⟨by omega, by omega⟩
  simp only [IsKeyword, List.mem_cons, List.not_mem_nil, or_false] at h
  rcases h with word | word | word | word
  · exact ⟨today, by simp [named?, word], same⟩
  · exact ⟨today, by simp [named?, word], same⟩
  · simpa [named?, word] using after
  · simpa [named?, word] using before

theorem named?_eq_none (h : ¬IsKeyword parameter) (today : Date) :
    named? today parameter = none := by
  simp only [IsKeyword, List.mem_cons, List.not_mem_nil, or_false, not_or] at h
  simp [named?, h]

end Calendar

namespace DateBound

open Calendar

variable {parameter : String}

theorem of_eq_of_not_isKeyword (h : ¬IsKeyword parameter) (a b : DateTime) :
    DateBound.of a parameter = DateBound.of b parameter := by
  unfold DateBound.of
  rw [resolve_of_not_isKeyword h, resolve_of_not_isKeyword h]

/-- A bound is the same if its keyword is written out, whatever clock it is then read against. -/
theorem of_spelled {today : Date} (first : 1 ≤ today.civil.year) (last : today.civil.year ≤ 9998)
    (parameter : String) (clock : DateTime) :
    DateBound.of clock (spelled today parameter) = DateBound.of (.midnight today) parameter := by
  by_cases h : IsKeyword parameter
  · obtain ⟨date, named, four⟩ := exists_named? first last h
    unfold DateBound.of
    rw [resolve_named? named]
    simp only [spelled, named, resolve_text four]
  · simp only [spelled, named?_eq_none h]
    exact of_eq_of_not_isKeyword h clock (.midnight today)

end DateBound

/-! ## Constraints and rules -/

def Constraint.mapDates (f : String → String) : Constraint → Constraint
  | .after date => .after (f date)
  | .before date => .before (f date)
  | c => c

def FieldRule.mapDates (f : String → String) (rule : FieldRule) : FieldRule :=
  { rule with constraints := rule.constraints.map (Constraint.mapDates f) }

def RuleSet.mapDates (f : String → String) (rules : RuleSet) : RuleSet :=
  rules.mapValues fun _ rule => rule.mapDates f

section Rewriting

variable {f : String → String} {a b : DateTime}

theorem Check.of?_mapDates {c : Constraint}
    (h : ∀ date ∈ c.dates, DateBound.of b (f date) = DateBound.of a date) :
    Check.of? b (c.mapDates f) = Check.of? a c := by
  cases c with
  | after date => simp only [Constraint.mapDates, Check.of?, h date (by simp [Constraint.dates])]
  | before date => simp only [Constraint.mapDates, Check.of?, h date (by simp [Constraint.dates])]
  | _ => rfl

theorem Constraint.brokenPattern?_mapDates (f : String → String) (c : Constraint) :
    (c.mapDates f).brokenPattern? = c.brokenPattern? := by
  cases c <;> rfl

theorem Check.mapM_mapDates {constraints : List Constraint}
    (h : ∀ c ∈ constraints, ∀ date ∈ c.dates, DateBound.of b (f date) = DateBound.of a date) :
    (constraints.map (Constraint.mapDates f)).mapM (Check.of? b) =
      constraints.mapM (Check.of? a) := by
  induction constraints with
  | nil => rw [List.map_nil, List.mapM_nil, List.mapM_nil]
  | cons c rest ih =>
      have first : Check.of? b (c.mapDates f) = Check.of? a c :=
        Check.of?_mapDates (h c List.mem_cons_self)
      have others := ih fun c mem => h c (List.mem_cons_of_mem _ mem)
      rw [List.map_cons, List.mapM_cons, List.mapM_cons, first, others]

theorem FieldSchema.compile_mapDates {rule : FieldRule}
    (h : ∀ c ∈ rule.constraints, ∀ date ∈ c.dates,
      DateBound.of b (f date) = DateBound.of a date) :
    FieldSchema.compile b (rule.mapDates f) = FieldSchema.compile a rule := by
  unfold FieldSchema.compile FieldRule.mapDates
  dsimp only
  rw [Check.mapM_mapDates h]

namespace Schema

theorem issuesOf_mapDates (f : String → String) (field : String) (rule : FieldRule) :
    issuesOf field (rule.mapDates f) = issuesOf field rule := by
  simp only [issuesOf, FieldRule.mapDates, List.filterMap_map, Function.comp_def,
    Constraint.brokenPattern?_mapDates]

theorem compileFields_mapDates {entries : List (String × FieldRule)}
    (h : ∀ e ∈ entries, ∀ c ∈ e.2.constraints, ∀ date ∈ c.dates,
      DateBound.of b (f date) = DateBound.of a date) :
    compileFields b (entries.map fun e => (e.1, e.2.mapDates f)) = compileFields a entries := by
  induction entries with
  | nil => rfl
  | cons e rest ih =>
      have first := FieldSchema.compile_mapDates (h e List.mem_cons_self)
      have others := ih fun e mem => h e (List.mem_cons_of_mem _ mem)
      rw [List.map_cons, compileFields, compileFields, first, others]

/-- The dates of a rule set matter only through the bounds that they compile to. -/
theorem compile_mapDates {rules : RuleSet}
    (h : ∀ date ∈ rules.dates, DateBound.of b (f date) = DateBound.of a date) :
    compile b (rules.mapDates f) = compile a rules := by
  have bounds : ∀ e ∈ rules.entries, ∀ c ∈ e.2.constraints, ∀ date ∈ c.dates,
      DateBound.of b (f date) = DateBound.of a date :=
    fun e he c hc date hd =>
      h date (List.mem_flatMap.mpr ⟨e, he, List.mem_flatMap.mpr ⟨c, hc, hd⟩⟩)
  simp only [compile, RuleSet.mapDates, OrderedMap.mapValues, compileFields_mapDates bounds,
    List.flatMap_map, issuesOf_mapDates]

end Schema

end Rewriting

namespace RuleSet

theorem mapDates_id (rules : RuleSet) : rules.mapDates id = rules := by
  have constraint : Constraint.mapDates id = id := by
    funext c
    cases c <;> rfl
  apply OrderedMap.ext
  simp [mapDates, OrderedMap.mapValues, FieldRule.mapDates, constraint]

/-- The rule set with every keyword of the clock written out as the date that it stands for on a
day. -/
def spelled (today : Date) (rules : RuleSet) : RuleSet :=
  rules.mapDates (Calendar.spelled today)

theorem hasNeighbours_midnight {today : Date} (first : 1 ≤ today.civil.year)
    (last : today.civil.year ≤ 9998) : (DateTime.midnight today).HasNeighbours := by
  obtain ⟨lower, upper⟩ := Date.days_in_years first last
  have start : Calendar.firstDay < Calendar.dayNumber 1 1 1 := by decide
  have stop : Calendar.dayNumber 9999 1 1 < Calendar.lastDay := by decide
  exact ⟨start.trans_le lower, upper.trans stop⟩

/-- There are two schemas, and they tell the same of every record. -/
def SameResults (a b : Except ClockOverflow Schema) : Prop :=
  ∃ s t, a = .ok s ∧ b = .ok t ∧ ∀ record, s.validateRecord record = t.validateRecord record

/-- The keywords of the clock are abbreviations of dates.  Rules that are read on a day tell the
same of every record as the rules with the keywords written out as the dates of that day, of the
next and of the one before, whatever clock these are read against; and rules without keywords tell
the same under every two clocks. -/
theorem keywords_abbreviate (rules : RuleSet) (today : Date) (first : 1 ≤ today.civil.year)
    (last : today.civil.year ≤ 9998) :
    (∀ clock, SameResults (Schema.compile (.midnight today) rules)
      (Schema.compile clock (rules.spelled today))) ∧
    ((∀ date ∈ rules.dates, ¬Calendar.IsKeyword date) → ∀ clock other,
      SameResults (Schema.compile clock rules) (Schema.compile other rules)) := by
  obtain ⟨s, compiled⟩ : ∃ s, Schema.compile (.midnight today) rules = .ok s :=
    ⟨_, Schema.compile_of_hasNeighbours (hasNeighbours_midnight first last) rules⟩
  refine ⟨fun clock => ?_, fun plain clock other => ?_⟩
  · have same : Schema.compile clock (rules.spelled today) =
        Schema.compile (.midnight today) rules :=
      Schema.compile_mapDates fun date _ => DateBound.of_spelled first last date clock
    exact ⟨s, s, compiled, same.trans compiled, fun _ => rfl⟩
  · have same (clock : DateTime) :
        Schema.compile clock rules = Schema.compile (.midnight today) rules := by
      have whole : Schema.compile clock (rules.mapDates id) =
          Schema.compile (.midnight today) rules :=
        Schema.compile_mapDates fun date mem =>
          DateBound.of_eq_of_not_isKeyword (plain date mem) clock (.midnight today)
      rwa [mapDates_id] at whole
    exact ⟨s, s, (same clock).trans compiled, (same other).trans compiled, fun _ => rfl⟩

/-- On a leap day the day after is the first of March, and written out it stays that day. -/
theorem stay_keywords_abbreviate :
    let leapDay : Date := ⟨19782, by decide⟩
    let stay : RuleSet := OrderedMap.ofList
      [("booked", { base := .date, constraints := [.before "Now", .after "1999-12-31"] }),
        ("arrival", { base := .date, constraints := [.after "yesterday", .before " TOMORROW "] }),
        ("departure", { base := .date, constraints := [.after "arrival"] })]
    let written : RuleSet := OrderedMap.ofList
      [("booked", { base := .date, constraints := [.before "2024-02-29", .after "1999-12-31"] }),
        ("arrival", { base := .date, constraints := [.after "2024-02-28", .before "2024-03-01"] }),
        ("departure", { base := .date, constraints := [.after "arrival"] })]
    SameResults (Schema.compile (.midnight leapDay) stay) (Schema.compile .epoch written) ∧
      ∀ clock other,
        SameResults (Schema.compile clock written) (Schema.compile other written) := by
  intro leapDay stay written
  have first : 1 ≤ leapDay.civil.year := by decide
  have last : leapDay.civil.year ≤ 9998 := by decide
  have same : stay.spelled leapDay = written := by decide +kernel
  have plain : ∀ date ∈ written.dates, ¬Calendar.IsKeyword date := by decide +kernel
  have results := (keywords_abbreviate stay leapDay first last).1 .epoch
  rw [same] at results
  exact ⟨results, (keywords_abbreviate written leapDay first last).2 plain⟩

end RuleSet

end FormRules
