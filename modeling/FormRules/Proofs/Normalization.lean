import FormRules.Proofs.OrderedMap
import FormRules.Rule.Normal

/-!
# What normalizing gives

The fold over a field's tokens in closed form.  Each token sets a type or a flag
and adds constraints of its own, whatever stands before it; the rule collects
what the tokens say.
-/

namespace FormRules

/-! ## Names -/

namespace Directive

def typeNames : List (String × BaseType) :=
  [("string", .string), ("integer", .number), ("numeric", .number), ("boolean", .boolean),
    ("date", .date), ("array", .array), ("file", .file), ("email", .string), ("url", .string)]

def constraintNames : List String :=
  ["email", "url", "min", "max", "size", "between", "in", "regex", "confirmed", "unique", "exists",
    "after", "before", "image", "mimes"]

def type? : Directive → Option BaseType
  | .ofType base => some base
  | .email => some .string
  | .url => some .string
  | _ => none

def constrains : Directive → Bool
  | .required | .nullable | .ofType _ => false
  | _ => true

theorem nodup_names : (Entries.keys names).Nodup := by
  decide

theorem mem_names_of_ofName? {name : String} {d : Directive} (h : ofName? name = some d) :
    (name, d) ∈ names :=
  Entries.mem_of_get? h

/-- The type names are the names of the directives that set a type. -/
theorem get?_typeNames (name : String) :
    Entries.get? name typeNames = (ofName? name).bind type? :=
  Entries.get?_filterMap nodup_names fun _ d => d.type?

theorem mem_constraintNames {name : String} {d : Directive} (h : ofName? name = some d)
    (hd : d.constrains = true) : name ∈ constraintNames := by
  have hm : (name, d) ∈ names.filter fun e => e.2.constrains :=
    List.mem_filter.2 ⟨mem_names_of_ofName? h, hd⟩
  exact List.mem_map_of_mem (f := Prod.fst) hm

theorem ofName?_eq_required {name : String} :
    ofName? name = some .required ↔ name = "required" := by
  constructor
  · intro h
    simpa [names] using mem_names_of_ofName? h
  · rintro rfl
    rfl

theorem ofName?_eq_nullable {name : String} :
    ofName? name = some .nullable ↔ name = "nullable" := by
  constructor
  · intro h
    simpa [names] using mem_names_of_ofName? h
  · rintro rfl
    rfl

end Directive

/-! ## Tokens -/

namespace RuleToken

def type? (t : RuleToken) : Option BaseType :=
  Entries.get? t.name Directive.typeNames

/-- The type that some tokens set: that of the last one which sets any, or text. -/
def settledType (tokens : List RuleToken) : BaseType :=
  ((tokens.filterMap type?).getLast?).getD .string

def constraints (field : String) (t : RuleToken) : List Constraint :=
  match Directive.ofName? t.name with
  | some .email => [.email]
  | some .url => [.url]
  | some .min => ((t.bound? 0).map .min).toList
  | some .max => ((t.bound? 0).map .max).toList
  | some .size => ((t.bound? 0).map .size).toList
  | some .between => ((t.bound? 0).map .min).toList ++ ((t.bound? 1).map .max).toList
  | some .oneOf => [.oneOf t.parameters]
  | some .pattern => (t.pattern?.map .pattern).toList
  | some .confirmed => [.confirmed (field ++ "_confirmation")]
  | some .unique => [.unique (t.tableName? 0) (t.tableName? 1)]
  | some .existing => [.existing (t.tableName? 0) (t.tableName? 1)]
  | some .after => ((t.filled? 0).map .after).toList
  | some .before => ((t.filled? 0).map .before).toList
  | some .image => [.image]
  | some .mimes => [.mimes t.parameters]
  | some .required | some .nullable | some (.ofType _) | none => []

/-- A token that adds constraints has one of the names for it. -/
theorem mem_constraintNames {field : String} {t : RuleToken} {c : Constraint}
    (h : c ∈ t.constraints field) : t.name ∈ Directive.constraintNames := by
  cases hd : Directive.ofName? t.name with
  | none => simp [constraints, hd] at h
  | some d =>
      refine Directive.mem_constraintNames hd ?_
      cases d with
      | required => simp [constraints, hd] at h
      | nullable => simp [constraints, hd] at h
      | ofType base => simp [constraints, hd] at h
      | _ => rfl

end RuleToken

/-! ## The fold -/

namespace FieldRule

theorem push_eq {α : Type} (rule : FieldRule) (parameter : Option α) (build : α → Constraint) :
    rule.push parameter build =
      { rule with constraints := rule.constraints ++ (parameter.map build).toList } := by
  cases parameter with
  | none => simp [push]
  | some a => rfl

/-- One token acts on each part of a rule by itself. -/
theorem apply_eq (field : String) (rule : FieldRule) (t : RuleToken) :
    rule.apply field t =
      { base := t.type?.getD rule.base
        required := rule.required || t.name = "required"
        nullable := rule.nullable || t.name = "nullable"
        constraints := rule.constraints ++ t.constraints field } := by
  unfold apply RuleToken.type? RuleToken.constraints
  simp only [← Directive.ofName?_eq_required, ← Directive.ofName?_eq_nullable,
    Directive.get?_typeNames]
  cases Directive.ofName? t.name with
  | none => simp
  | some d => cases d <;> simp [push_eq, Directive.type?]

theorem foldl_apply_eq (field : String) (rule : FieldRule) (tokens : List RuleToken) :
    tokens.foldl (apply field) rule =
      { base := ((tokens.filterMap RuleToken.type?).getLast?).getD rule.base
        required := rule.required || tokens.any fun t => t.name = "required"
        nullable := rule.nullable || tokens.any fun t => t.name = "nullable"
        constraints := rule.constraints ++ tokens.flatMap (RuleToken.constraints field) } := by
  induction tokens generalizing rule with
  | nil => simp
  | cons t rest ih =>
      rw [List.foldl_cons, ih, apply_eq]
      cases ht : t.type? with
      | none => simp [ht, Bool.or_assoc]
      | some base => cases hl : (rest.filterMap RuleToken.type?).getLast? <;>
          simp [ht, hl, List.getLast?_cons, Bool.or_assoc]

/-- The rule of some tokens collects what each of them says. -/
theorem ofTokens_eq (field : String) (tokens : List RuleToken) :
    ofTokens field tokens =
      { base := RuleToken.settledType tokens
        required := tokens.any fun t => t.name = "required"
        nullable := tokens.any fun t => t.name = "nullable"
        constraints := tokens.flatMap (RuleToken.constraints field) } := by
  unfold ofTokens
  rw [foldl_apply_eq]
  rfl

/-! ## Tokens by themselves -/

theorem base_ofTokens (field : String) (tokens : List RuleToken) :
    (ofTokens field tokens).base = (tokens.reverse.findSome? RuleToken.type?).getD .string := by
  rw [ofTokens_eq, RuleToken.settledType, List.getLast?_filterMap]

theorem constraints_singleton (field : String) (t : RuleToken) :
    (ofTokens field [t]).constraints = t.constraints field := by
  rw [ofTokens_eq, List.flatMap_singleton]

/-- A list without a type leaves the type to the tokens before it. -/
theorem base_append (field : String) (xs ys : List RuleToken) :
    (ofTokens field (xs ++ ys)).base =
      if ∃ t ∈ ys, t.type? ≠ none then (ofTokens field ys).base else (ofTokens field xs).base := by
  rw [base_ofTokens, base_ofTokens, base_ofTokens, List.reverse_append, List.findSome?_append]
  cases later : ys.reverse.findSome? RuleToken.type? with
  | some base =>
      obtain ⟨t, ht, sets⟩ := List.exists_of_findSome?_eq_some later
      have typed : ∃ t ∈ ys, t.type? ≠ none := ⟨t, List.mem_reverse.1 ht, by simp [sets]⟩
      rw [if_pos typed]
      rfl
  | none =>
      have untyped : ¬∃ t ∈ ys, t.type? ≠ none := by
        rintro ⟨t, ht, sets⟩
        exact sets (List.findSome?_eq_none_iff.1 later t (List.mem_reverse.2 ht))
      rw [if_neg untyped, Option.none_or]

theorem ofTokens_append (field : String) (xs ys : List RuleToken) :
    ofTokens field (xs ++ ys) =
      let first := ofTokens field xs
      let second := ofTokens field ys
      { base := if ∃ t ∈ ys, t.type? ≠ none then second.base else first.base
        required := first.required || second.required
        nullable := first.nullable || second.nullable
        constraints := first.constraints ++ second.constraints } := by
  have base := base_append field xs ys
  rw [ofTokens_eq field (xs ++ ys)] at base ⊢
  simp only [← base]
  simp only [ofTokens_eq, List.any_append, List.flatMap_append]

/-- A rule collects what each of its tokens says by itself.  A flag is set if some token has its
name, and the type is that of the last token that sets one, or text.  The constraints are those of
the tokens in order, each read as if it stood alone; `between` gives a lower and an upper bound, as
far as these can be read.  So the rule of two lists in a row is put together from the rules of the
lists, where the second list settles the type if it sets any. -/
theorem rule_collects_tokens (field : String) (xs : List RuleToken) :
    let rule := ofTokens field xs
    (rule.required = true ↔ ∃ t ∈ xs, t.name = "required") ∧
    (rule.nullable = true ↔ ∃ t ∈ xs, t.name = "nullable") ∧
    rule.base =
      (xs.reverse.findSome? fun t => Entries.get? t.name Directive.typeNames).getD .string ∧
    rule.constraints = xs.flatMap (fun t => (ofTokens field [t]).constraints) ∧
    (∀ t, (ofTokens field [t]).constraints = t.constraints field) ∧
    (∀ parameters raw, let t : RuleToken := ⟨"between", parameters, raw⟩
      t.constraints field = ((t.bound? 0).map .min).toList ++ ((t.bound? 1).map .max).toList) ∧
    ∀ ys, ofTokens field (xs ++ ys) =
      let more := ofTokens field ys
      { base := if ∃ t ∈ ys, Entries.get? t.name Directive.typeNames ≠ none then more.base
          else rule.base
        required := rule.required || more.required
        nullable := rule.nullable || more.nullable
        constraints := rule.constraints ++ more.constraints } := by
  intro rule
  have closed : rule = _ := ofTokens_eq field xs
  refine ⟨?_, ?_, base_ofTokens field xs, ?_, constraints_singleton field, fun _ _ => rfl,
    ofTokens_append field xs⟩
  · simp [closed]
  · simp [closed]
  · simp only [constraints_singleton, closed]

/-- The address sets its own type over that of `file`; the upper bound cannot be read. -/
example :
    ofTokens "mail" [.of "file" none, .of "email" none, .of "between" (some "6,x"),
        .of "nullable" none] =
      { nullable := true, constraints := [.email, .min 6] } := by
  decide

end FieldRule

end FormRules
