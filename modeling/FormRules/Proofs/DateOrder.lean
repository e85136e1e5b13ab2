import Mathlib.Data.List.Chain
import FormRules.Proofs.CalendarEnds
import FormRules.Proofs.Validation

/-!
# The order of dates in a record

A constraint can compare the date of a field with the one in another field, by
name.  It says something only where both fields hold dates, and then it demands a
strict order: the two fields of a pair agree on it, along a chain of fields the
dates increase, and around a circle they cannot.
-/

namespace FormRules

/-! ## Dates of a record -/

theorem DateTime.lt_irrefl (t : DateTime) : ¬t < t := Int.lt_irrefl t.instant

theorem DateTime.lt_trans {t u v : DateTime} (h : t < u) (h' : u < v) : t < v := Int.lt_trans h h'

namespace Record

def date? (record : Record) (name : String) : Option DateTime :=
  (Entries.get? name record).bind fun value => value.asString?.bind Calendar.parse?

/-- Two members of a record hold dates, the first one the earlier of them. -/
def Earlier (record : Record) (first next : String) : Prop :=
  ∃ t u, record.date? first = some t ∧ record.date? next = some u ∧ t < u

instance (record : Record) : Trans record.Earlier record.Earlier record.Earlier where
  trans := by
    rintro a b c ⟨t, u, ht, hu, before⟩ ⟨u', v, hu', hv, later⟩
    cases hu.symm.trans hu'
    exact ⟨t, v, ht, hv, DateTime.lt_trans before later⟩

theorem not_earlier_self (record : Record) (name : String) : ¬record.Earlier name name := by
  rintro ⟨t, u, ht, hu, before⟩
  cases ht.symm.trans hu
  exact DateTime.lt_irrefl t before

end Record

/-! ## Demands on two dates -/

theorem DateBound.resolve?_field (record : Option Record) (name : String) :
    (DateBound.field name).resolve? record =
      (record.bind fun members => members.date? name).map fun u => (u, name) := by
  cases record with
  | none => rfl
  | some members =>
      simp only [DateBound.resolve?, Record.date?, bind, pure, Option.bind_some,
        Option.map_eq_bind, Option.bind_assoc, Function.comp_def]

theorem compareDate_field_eq_none_iff {value : Json} {name : String} {record : Record}
    {holds : DateTime → DateTime → Bool} {complaint : String → Complaint} :
    compareDate value (.field name) (some record) holds complaint = none ↔
      ∀ t u, value.asString?.bind Calendar.parse? = some t → record.date? name = some u →
        holds t u = true := by
  unfold compareDate
  rw [DateBound.resolve?_field, Option.bind_some]
  cases value.asString?.bind Calendar.parse? with
  | none => simp
  | some t => cases record.date? name <;> simp [ensure_eq_none_iff]

namespace Constraint

/-- A constraint compares a date with the one in another field.  The field has the name in the
parameter, which is no date by itself, and the date of the own field comes first in the order. -/
inductive Compares (now : DateTime) :
    Constraint → String → (DateTime → DateTime → Prop) → Prop where
  | after {parameter : String} (named : Calendar.resolve parameter now = .name) :
      Compares now (.after parameter) (Text.trimText parameter) fun own other => other < own
  | before {parameter : String} (named : Calendar.resolve parameter now = .name) :
      Compares now (.before parameter) (Text.trimText parameter) fun own other => own < other

variable {now : DateTime} {c : Constraint} {name : String} {holds : DateTime → DateTime → Prop}

theorem Compares.isBeyond (compares : c.Compares now name holds) : c.isBeyond now = false := by
  cases compares with
  | after named => simp [Constraint.isBeyond, Check.of?, DateBound.of, named, Except.map]
  | before named => simp [Constraint.isBeyond, Check.of?, DateBound.of, named, Except.map]

theorem Compares.passes_iff (compares : c.Compares now name holds) {base : BaseType} {value : Json}
    {record : Record} :
    (∀ check, c.check? now = some check → check.complaint? base value (some record) = none) ↔
      ∀ t u, value.asString?.bind Calendar.parse? = some t → record.date? name = some u →
        holds t u := by
  cases compares with
  | after named =>
      simp [Constraint.check?, Check.of?, DateBound.of, named, Except.map, Check.complaint?,
        compareDate_field_eq_none_iff]
  | before named =>
      simp [Constraint.check?, Check.of?, DateBound.of, named, Except.map, Check.complaint?,
        compareDate_field_eq_none_iff]

end Constraint

/-! ## Fields of a record -/

namespace FieldRule

def PassesIn (now : DateTime) (rule : FieldRule) (record : Record) (field : String) : Prop :=
  ∃ f, FieldSchema.compile now rule = .ok f ∧
    f.complaint? (Entries.get? field record) (some record) = none

variable {now : DateTime} {rule : FieldRule} {record : Record} {field : String}

theorem passesIn_iff : rule.PassesIn now record field ↔ rule.isBeyond now = false ∧
    (rule.schema now).complaint? (Entries.get? field record) (some record) = none := by
  unfold PassesIn
  rw [FieldSchema.compile_eq]
  cases rule.isBeyond now <;> simp

/-- What a comparison adds to the other conditions on a field. -/
theorem passesIn_iff_others {before after : List Constraint} {c : Constraint} {name : String}
    {holds : DateTime → DateTime → Prop} (parts : rule.constraints = before ++ c :: after)
    (compares : c.Compares now name holds) :
    rule.PassesIn now record field ↔
      { rule with constraints := before ++ after }.PassesIn now record field ∧
        ∀ t u, record.date? field = some t → record.date? name = some u → holds t u := by
  rw [passesIn_iff, passesIn_iff, isBeyond_eq_or parts, compares.isBeyond, Bool.false_or,
    complaint?_eq_none_iff_others parts, and_assoc]
  simp only [compares.passes_iff]
  unfold Record.date?
  cases Entries.get? field record with
  | none => simp
  | some value =>
      have null : Json.null.asString? = none := rfl
      grind

/-- A field of dates without constraints has nothing against a date. -/
theorem passesIn_of_dated (base : rule.base = .date) (free : rule.constraints = [])
    (dated : (record.date? field).isSome = true) : rule.PassesIn now record field := by
  obtain ⟨t, ht⟩ := Option.isSome_iff_exists.1 dated
  obtain ⟨value, held, written⟩ := Option.bind_eq_some_iff.1 ht
  obtain ⟨text, string, read⟩ := Option.bind_eq_some_iff.1 written
  obtain rfl := Json.eq_string_of_asString? string
  have inside : rule.isBeyond now = false := by simp [isBeyond, free]
  have admits : (rule.schema now).base.admits (.string text) = true := by
    rw [schema_base, base]
    simp [BaseType.admits, read]
  have checks : (rule.schema now).checks = [] := by simp [FieldRule.checks, free, base]
  rw [passesIn_iff, held, FieldSchema.complaint?_of_ne_null (by simp),
    FieldSchema.complaintAt?_eq_none_iff, checks]
  exact ⟨inside, admits, by simp⟩

end FieldRule

namespace RuleSet

variable {now : DateTime} {rules : RuleSet} {s : Schema} {record : Record}

theorem get?_errors_eq_none_iff (compiled : Schema.compile now rules = .ok s) {field : String}
    {rule : FieldRule} (own : rules.get? field = some rule) :
    (s.validateRecord record).errors.get? field = none ↔ rule.PassesIn now record field := by
  have inside : rules.isBeyond now = false := by
    rw [Schema.compile_eq] at compiled
    split at compiled
    · cases compiled
    · rename_i reached
      exact Bool.eq_false_iff.2 reached
  rw [FieldRule.passesIn_iff, Schema.eq_schema_of_compile compiled, Schema.get?_validateRecord,
    get?_schema_fields, own]
  simp [isBeyond_of_get? inside own]

/-- One field has a constraint to be later than another one. -/
def Follows (now : DateTime) (rules : RuleSet) (first next : String) : Prop :=
  ∃ rule parameter, rules.get? next = some rule ∧ .after parameter ∈ rule.constraints ∧
    Calendar.resolve parameter now = .name ∧ Text.trimText parameter = first

theorem Follows.earlier (compiled : Schema.compile now rules = .ok s) {first next : String}
    (follows : rules.Follows now first next)
    (fine : (s.validateRecord record).errors.get? next = none)
    (dated : (record.date? first).isSome = true ∧ (record.date? next).isSome = true) :
    record.Earlier first next := by
  obtain ⟨rule, parameter, own, given, named, rfl⟩ := follows
  obtain ⟨before, after, parts⟩ := List.append_of_mem given
  obtain ⟨t, ht⟩ := Option.isSome_iff_exists.1 dated.1
  obtain ⟨u, hu⟩ := Option.isSome_iff_exists.1 dated.2
  have passes := (get?_errors_eq_none_iff compiled own).1 fine
  have order := ((FieldRule.passesIn_iff_others parts (.after named)).1 passes).2
  exact ⟨t, u, ht, hu, order u t hu ht⟩

/-- Along a chain of fields that are demanded to be later, each than the one before it, the dates
of a valid record increase. -/
theorem pairwise_earlier (compiled : Schema.compile now rules = .ok s) {chain : List String}
    (follows : chain.IsChain (rules.Follows now))
    (dated : ∀ field ∈ chain, (record.date? field).isSome = true)
    (fine : (s.validateRecord record).ok = true) : chain.Pairwise record.Earlier := by
  have none (field : String) : (s.validateRecord record).errors.get? field = none :=
    OrderedMap.isEmpty_iff.1 fine field
  exact (follows.imp_of_mem_imp fun _ _ first next follows =>
    follows.earlier compiled (none _) ⟨dated _ first, dated _ next⟩).pairwise

/-- Comparisons with the dates of other fields demand a strict order, and demand it consistently.
A field with such a comparison is accepted if its other conditions hold and the two dates are in the
order; without a date in the other field the comparison rejects nothing.  If of two date fields one
only has to be before the other and that one only after the first, then on records with dates in
both of them either both are rejected or none.  In a valid record the dates increase along every
chain of fields of which each has to be after the one before it, and so no record with dates in all
fields of a circle is valid. -/
theorem comparisons_order_dates (compiled : Schema.compile now rules = .ok s) (record : Record) :
    let errors := (s.validateRecord record).errors
    (∀ field rule before c after name holds, rules.get? field = some rule →
      rule.constraints = before ++ c :: after → Constraint.Compares now c name holds →
      let others := { rule with constraints := before ++ after }
      (errors.get? field = none ↔ others.PassesIn now record field ∧
        ∀ t u, record.date? field = some t → record.date? name = some u → holds t u)) ∧
    (∀ a b first last p q, rules.get? a = some first → rules.get? b = some last →
      first.base = .date → last.base = .date →
      first.constraints = [.before p] → last.constraints = [.after q] →
      Calendar.resolve p now = .name → Text.trimText p = b →
      Calendar.resolve q now = .name → Text.trimText q = a →
      (record.date? a).isSome = true → (record.date? b).isSome = true →
      (errors.get? a = none ↔ errors.get? b = none)) ∧
    (∀ chain : List String, chain.IsChain (rules.Follows now) →
      (∀ field ∈ chain, (record.date? field).isSome = true) →
      (s.validateRecord record).ok = true → chain.Pairwise record.Earlier) ∧
    ∀ (first : String) (rest : List String),
      (first :: (rest ++ [first])).IsChain (rules.Follows now) →
      (∀ field ∈ first :: rest, (record.date? field).isSome = true) →
      (s.validateRecord record).ok = false := by
  intro errors
  refine ⟨?_, ?_, fun _ follows => pairwise_earlier compiled follows, ?_⟩
  · intro field rule before c after name holds own parts compares others
    rw [get?_errors_eq_none_iff compiled own, FieldRule.passesIn_iff_others parts compares]
  · rintro a b first last p q ownA ownB baseA baseB onlyA onlyB namedA rfl namedB rfl datedA datedB
    have partsA : first.constraints = [] ++ .before p :: [] := onlyA
    have partsB : last.constraints = [] ++ .after q :: [] := onlyB
    have freeA : { first with constraints := [] }.PassesIn now record _ :=
      FieldRule.passesIn_of_dated baseA rfl datedA
    have freeB : { last with constraints := [] }.PassesIn now record _ :=
      FieldRule.passesIn_of_dated baseB rfl datedB
    rw [get?_errors_eq_none_iff compiled ownA, get?_errors_eq_none_iff compiled ownB,
      FieldRule.passesIn_iff_others partsA (.before namedA),
      FieldRule.passesIn_iff_others partsB (.after namedB)]
    simp only [List.append_nil, freeA, freeB, true_and]
    exact ⟨fun h t u ht hu => h u t hu ht, fun h t u ht hu => h u t hu ht⟩
  · intro first rest follows dated
    by_contra fine
    have all : ∀ field ∈ first :: (rest ++ [first]), (record.date? field).isSome = true := by
      grind
    have increasing := pairwise_earlier compiled follows all (by simpa using fine)
    have again : first ∈ rest ++ [first] := by simp
    exact record.not_earlier_self first (List.rel_of_pairwise_cons increasing again)

/-- A stay ends after it begins, whichever of its two fields is asked; lunch and dinner cannot each
be after the other. -/
theorem stay_dates_ordered :
    let rules : RuleSet := OrderedMap.ofList
      [("arrival", { base := .date, constraints := [.before "departure"] }),
        ("departure", { base := .date, required := true, constraints := [.after " arrival "] }),
        ("lunch", { constraints := [.after "dinner"] }),
        ("dinner", { constraints := [.after "lunch", .max 10] })]
    let s := rules.schema .epoch
    let stay : Record := [("arrival", .string "2024-05-03"), ("departure", .string "2024-05-04 11:00")]
    let day : Record := ("lunch", .string "2024-05-03") :: ("dinner", .string "2024-05-04") :: stay
    Schema.compile .epoch rules = .ok s ∧
    ((s.validateRecord day).errors.get? "dinner" = none ↔
      { constraints := [.max 10] : FieldRule }.PassesIn .epoch day "dinner" ∧
        ∀ t u, day.date? "dinner" = some t → day.date? "lunch" = some u → u < t) ∧
    ((s.validateRecord stay).errors.get? "arrival" = none ↔
      (s.validateRecord stay).errors.get? "departure" = none) ∧
    ["arrival", "departure"].Pairwise stay.Earlier ∧
    (s.validateRecord day).ok = false := by
  intro rules s stay day
  have compiled : Schema.compile .epoch rules = .ok s :=
    Schema.compile_of_hasNeighbours DateTime.hasNeighbours_epoch rules
  have departs : rules.Follows .epoch "arrival" "departure" :=
    ⟨_, " arrival ", rfl, by decide, by decide, by decide⟩
  have lunches : rules.Follows .epoch "dinner" "lunch" :=
    ⟨_, "dinner", rfl, by decide, by decide, by decide⟩
  have dines : rules.Follows .epoch "lunch" "dinner" :=
    ⟨_, "lunch", rfl, by decide, by decide, by decide⟩
  obtain ⟨-, pair, chain, -⟩ := comparisons_order_dates compiled stay
  obtain ⟨single, -, -, circle⟩ := comparisons_order_dates compiled day
  refine ⟨compiled, ?_, ?_, ?_, ?_⟩
  · exact single "dinner" _ [] (.after "lunch") [.max 10] "lunch" _ rfl rfl (.after (by decide))
  · exact pair _ _ _ _ _ _ rfl rfl rfl rfl rfl rfl (by decide) (by decide) (by decide) (by decide)
      (by decide) (by decide)
  · exact chain _ (by simpa using departs) (by decide) (by decide)
  · exact circle "lunch" ["dinner"] (by simpa using ⟨dines, lunches⟩) (by decide)

end RuleSet

end FormRules
