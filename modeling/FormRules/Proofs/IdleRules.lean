import Mathlib.Data.List.Forall2
import FormRules.Projection
import FormRules.Proofs.OrderedMap
import FormRules.Proofs.TokenText

/-!
# Rules without effect

Rule files may hold what has no meaning here: items of a list that are no rules,
atoms without a name or with a name that is not known, and rules whose
parameters give no constraint.  Wherever they stand among the other rules, they
change neither the rules of a form nor what is made of them.
-/

namespace FormRules

/-! ## Additional items -/

/-- The second list is the first one with additional items, anywhere among the others. -/
inductive Padded {α : Type} (extra : α → Prop) : List α → List α → Prop where
  | nil : Padded extra [] []
  | keep {a : α} {xs ys : List α} (rest : Padded extra xs ys) : Padded extra (a :: xs) (a :: ys)
  | insert {a : α} {xs ys : List α} (idle : extra a) (rest : Padded extra xs ys) :
      Padded extra xs (a :: ys)

/-! ## Tokens without effect -/

namespace RuleToken

def LacksBound (t : RuleToken) (index : Nat) : Prop :=
  ∀ p, t.parameter? index = some p → parseBound? p = none

/-- The tokens that have no effect on a rule. -/
inductive IsIdle (t : RuleToken) : Prop where
  | unknown (name : t.name ∉ Entries.keys Directive.names)
  | unbounded (name : t.name ∈ ["min", "max", "size"]) (bound : t.LacksBound 0)
  | between (name : t.name = "between") (least : t.LacksBound 0) (most : t.LacksBound 1)
  | undated (name : t.name ∈ ["after", "before"])
      (blank : ∀ p, t.parameter? 0 = some p → Text.allBlank p.toList = true)
  | noPattern (name : t.name = "regex") (empty : t.raw = none ∨ t.raw = some "")

theorem LacksBound.bound? {t : RuleToken} {index : Nat} (h : t.LacksBound index) :
    t.bound? index = none := by
  unfold RuleToken.bound?
  cases hp : t.parameter? index with
  | none => rfl
  | some p => exact h p hp

theorem filled?_of_blank {t : RuleToken} {index : Nat}
    (h : ∀ p, t.parameter? index = some p → Text.allBlank p.toList = true) :
    t.filled? index = none := by
  unfold filled?
  cases hp : t.parameter? index with
  | none => rfl
  | some p =>
      have hb : Text.trimText p = "" := by
        unfold Text.trimText
        rw [Text.trim_of_allBlank (h p hp)]
      simp [hb, Option.filter]

theorem IsIdle.apply {t : RuleToken} (idle : t.IsIdle) (field : String) (rule : FieldRule) :
    rule.apply field t = rule := by
  unfold FieldRule.apply
  cases idle with
  | unknown name =>
      have none : Directive.ofName? t.name = none := Entries.get?_eq_none_iff.2 name
      rw [none]
  | unbounded name bound =>
      simp only [List.mem_cons, List.not_mem_nil, or_false] at name
      rcases name with name | name | name <;>
        simp [name, Directive.ofName?, Directive.names, Entries.get?, bound.bound?, FieldRule.push]
  | between name least most =>
      simp [name, Directive.ofName?, Directive.names, Entries.get?, least.bound?, most.bound?,
        FieldRule.push]
  | undated name blank =>
      simp only [List.mem_cons, List.not_mem_nil, or_false] at name
      rcases name with name | name <;>
        simp [name, Directive.ofName?, Directive.names, Entries.get?, filled?_of_blank blank,
          FieldRule.push]
  | noPattern name empty =>
      have none : t.pattern? = none := by
        unfold pattern?
        rcases empty with h | h <;> simp [h, Option.filter]
      simp [name, Directive.ofName?, Directive.names, Entries.get?, none, FieldRule.push]

end RuleToken

/-! ## Atoms without effect -/

namespace RuleAtom

/-- The rule texts that have no effect: blank ones, those without a name before the first colon,
and those whose token has none. -/
inductive IsIdleText : String → Prop where
  | blank {s : String} (blank : Text.allBlank s.toList = true) : IsIdleText s
  | nameless {s : String} {before after : List Char} (split : s.toList = before ++ ':' :: after)
      (blank : Text.allBlank before = true) : IsIdleText s
  | token {s : String} {t : RuleToken} (read : RuleToken.parse? s = some t) (idle : t.IsIdle) :
      IsIdleText s

theorem parse?_of_blank {s : String} (blank : Text.allBlank s.toList = true) :
    RuleToken.parse? s = none := by
  rw [RuleToken.parse?, ← List.append_nil s.toList, RuleToken.ofChars?_append_of_allBlank blank]
  rfl

theorem parse?_of_nameless {s : String} {before after : List Char}
    (split : s.toList = before ++ ':' :: after) (blank : Text.allBlank before = true) :
    RuleToken.parse? s = none := by
  have plain : ':' ∉ before := Text.not_mem_of_allBlank blank rfl
  rw [RuleToken.parse?_eq_none_iff, split, RuleToken.namePart_append_colon plain]
  exact blank

theorem IsIdleText.parse? {s : String} (idle : IsIdleText s) {t : RuleToken}
    (read : RuleToken.parse? s = some t) : t.IsIdle := by
  cases idle with
  | blank blank =>
      rw [parse?_of_blank blank] at read
      cases read
  | nameless split blank =>
      rw [parse?_of_nameless split blank] at read
      cases read
  | token other idle =>
      rw [other] at read
      cases read
      exact idle

end RuleAtom

theorem Descriptor.render_record (members : List (String × Json)) :
    (record members).render =
      match Entries.get? "rule" members with
      | some (.string text) => some text
      | _ => none := rfl

namespace Json

inductive IsIdleRule : Json → Prop where
  | other {value : Json} (noText : ∀ s, value ≠ .string s)
      (noObject : ∀ members, value ≠ .object members) : IsIdleRule value
  | noRule {members : List (String × Json)}
      (missing : ∀ s, Entries.get? "rule" members ≠ some (.string s)) :
      IsIdleRule (.object members)
  | text {s : String} (idle : RuleAtom.IsIdleText s) : IsIdleRule (.string s)
  | rule {members : List (String × Json)} {s : String}
      (rule : Entries.get? "rule" members = some (.string s)) (idle : RuleAtom.IsIdleText s) :
      IsIdleRule (.object members)

def ruleTokens (value : Json) : List RuleToken :=
  ((RuleAtom.ofJson? value).bind RuleAtom.token?).toList

theorem IsIdleRule.tokens {value : Json} (idle : value.IsIdleRule) :
    ∀ t ∈ value.ruleTokens, t.IsIdle := by
  intro t read
  rw [ruleTokens, Option.mem_toList] at read
  cases idle with
  | other noText noObject =>
      cases value with
      | string s => exact absurd rfl (noText s)
      | object members => exact absurd rfl (noObject members)
      | _ => cases read
  | noRule missing =>
      rename_i members
      have none : (Descriptor.record members).render = none := by
        rw [Descriptor.render_record]
        split
        · rename_i s h
          exact absurd h (missing s)
        · rfl
      simp [RuleAtom.ofJson?, RuleAtom.token?, RuleAtom.render, none] at read
  | text idle => exact idle.parse? read
  | rule rule idle =>
      rename_i members s
      have text : (Descriptor.record members).render = some s := by
        rw [Descriptor.render_record, rule]
      simp only [RuleAtom.ofJson?, Option.bind_some, RuleAtom.token?, RuleAtom.render,
        text] at read
      exact idle.parse? read

end Json

/-! ## Specifications with additional rules -/

namespace FieldRule

theorem foldl_idle {tokens : List RuleToken} (idle : ∀ t ∈ tokens, t.IsIdle) (field : String)
    (rule : FieldRule) : tokens.foldl (apply field) rule = rule := by
  induction tokens with
  | nil => rfl
  | cons t rest ih =>
      have same := (idle t List.mem_cons_self).apply field rule
      rw [List.foldl_cons, same, ih fun u hu => idle u (List.mem_cons_of_mem t hu)]

/-- Items whose tokens have no effect can stand anywhere among the others. -/
theorem foldl_padded {α : Type} {extra : α → Prop} {tokens : α → List RuleToken}
    (idle : ∀ a, extra a → ∀ t ∈ tokens a, t.IsIdle) {xs ys : List α}
    (padded : Padded extra xs ys) (field : String) (rule : FieldRule) :
    (ys.flatMap tokens).foldl (apply field) rule =
      (xs.flatMap tokens).foldl (apply field) rule := by
  induction padded generalizing rule with
  | nil => rfl
  | keep rest ih =>
      rw [List.flatMap_cons, List.flatMap_cons, List.foldl_append, List.foldl_append, ih]
  | insert extra rest ih =>
      rw [List.flatMap_cons, List.foldl_append, foldl_idle (idle _ extra), ih]

end FieldRule

namespace RuleSpec

theorem tokens_array (items : List Json) :
    (ofJson (.array items)).tokens = items.flatMap Json.ruleTokens := by
  unfold ofJson tokens atoms
  rw [List.filterMap_filterMap, List.filterMap_eq_flatMap_toList]
  rfl

theorem tokens_pipe (text : String) :
    (pipe text).tokens = (Text.piecesOf '|' text).filterMap RuleToken.parse? := by
  unfold tokens atoms
  rw [List.filterMap_map]
  rfl

theorem tokens_pipe_of_no_bar {text : String} (h : '|' ∉ text.toList) :
    (pipe text).tokens = (RuleToken.parse? text).toList := by
  rw [tokens_pipe, Text.piecesOf_of_not_mem h]
  cases hp : RuleToken.parse? text <;> simp [hp]

theorem tokens_pipe_joinTexts (texts : List String) :
    (pipe (Text.joinTexts "|" texts)).tokens = texts.flatMap fun s => (pipe s).tokens := by
  cases texts with
  | nil => rfl
  | cons s rest =>
      have pieces : Text.piecesOf '|' (Text.joinTexts "|" (s :: rest)) =
          (s :: rest).flatMap (Text.piecesOf '|') :=
        Text.piecesOf_joinTexts_eq_flatMap (by simp)
      simp only [tokens_pipe, pieces, List.filterMap_flatMap]

end RuleSpec

/-- The second specification is the first one with additional rules that have no effect: items of a
list, or atoms between the bars of a text. -/
inductive Json.WithIdleRules : Json → Json → Prop where
  | same (spec : Json) : WithIdleRules spec spec
  | list {items items' : List Json} (padded : Padded IsIdleRule items items') :
      WithIdleRules (.array items) (.array items')
  | text {texts texts' : List String}
      (padded : Padded (fun s => RuleAtom.IsIdleText s ∧ '|' ∉ s.toList) texts texts') :
      WithIdleRules (.string (Text.joinTexts "|" texts)) (.string (Text.joinTexts "|" texts'))

theorem RuleSpec.normalize_withIdleRules {spec spec' : Json} (more : spec.WithIdleRules spec')
    (field : String) : (ofJson spec').normalize field = (ofJson spec).normalize field := by
  unfold normalize FieldRule.ofTokens
  cases more with
  | same => rfl
  | list padded =>
      rw [tokens_array, tokens_array]
      exact FieldRule.foldl_padded (fun _ idle => idle.tokens) padded field {}
  | text padded =>
      simp only [ofJson, tokens_pipe_joinTexts]
      refine FieldRule.foldl_padded (fun s idle t ht => ?_) padded field {}
      rw [tokens_pipe_of_no_bar idle.2, Option.mem_toList] at ht
      exact idle.1.parse? ht

/-! ## Rule sets with additional rules -/

namespace RawRuleSet

theorem normalize_ofJson (members : List (String × Json)) :
    (ofJson (.object members)).normalize =
      OrderedMap.ofList (members.map fun m => (m.1, (RuleSpec.ofJson m.2).normalize m.1)) := by
  unfold normalize ofJson
  rw [OrderedMap.mapValues_ofList, List.map_map]
  rfl

/-- Additional rules without effect, in any fields of a rule set and at any places, leave its rules
as they are, and so the schema and the declaration. -/
theorem idle_rules_ignored {members members' : List (String × Json)}
    (more : List.Forall₂ (fun m m' => m.1 = m'.1 ∧ m.2.WithIdleRules m'.2) members members') :
    (ofJson (.object members')).normalize = (ofJson (.object members)).normalize ∧
      ∀ now name, (ofJson (.object members')).project now name =
        (ofJson (.object members)).project now name := by
  have rules : (ofJson (.object members')).normalize = (ofJson (.object members)).normalize := by
    rw [normalize_ofJson, normalize_ofJson]
    congr 1
    induction more with
    | nil => rfl
    | @cons m m' rest rest' head tail ih =>
        obtain ⟨key, spec⟩ := head
        simp only [List.map_cons, ih, ← key, RuleSpec.normalize_withIdleRules spec]
  refine ⟨rules, fun now name => ?_⟩
  unfold project
  rw [rules]

/-- The age gets additional items of every kind, and the code additional atoms. -/
theorem profile_idle_rules_ignored :
    let members : List (String × Json) :=
      [("age", .array [.string "required", .string "integer", .string "min:18"]),
        ("code", .string "nullable|max:3")]
    let members' : List (String × Json) :=
      [("age", .array [.null, .string "required", .object [("message", .string "max:9")],
          .string " : 3", .string "integer", .object [("rule", .string "sometimes")],
          .string "min:18", .string "between:x", .string "after: ", .string "regex:"]),
        ("code", .string "nullable||max:3|Required")]
    List.Forall₂ (fun m m' => m.1 = m'.1 ∧ m.2.WithIdleRules m'.2) members members' ∧
      (ofJson (.object members')).normalize = (ofJson (.object members)).normalize ∧
      ∀ now name, (ofJson (.object members')).project now name =
        (ofJson (.object members)).project now name := by
  intro members members'
  have between : (RuleToken.of "between" (some "x")).IsIdle := by
    refine .between rfl ?_ ?_
    · intro p hp
      obtain rfl : "x" = p := Option.some.inj hp
      decide
    · intro p hp
      cases hp
  have after : (RuleToken.of "after" (some " ")).IsIdle := by
    refine .undated (by decide) ?_
    intro p hp
    obtain rfl : " " = p := Option.some.inj hp
    decide
  have nameless : RuleAtom.IsIdleText " : 3" :=
    @RuleAtom.IsIdleText.nameless _ [' '] [' ', '3'] rfl (by decide)
  have age : Padded Json.IsIdleRule
      [.string "required", .string "integer", .string "min:18"]
      [.null, .string "required", .object [("message", .string "max:9")],
        .string " : 3", .string "integer", .object [("rule", .string "sometimes")],
        .string "min:18", .string "between:x", .string "after: ", .string "regex:"] := by
    refine .insert (.other (by simp) (by simp)) (.keep ?_)
    refine .insert (.noRule (by simp [Entries.get?])) ?_
    refine .insert (.text nameless) (.keep ?_)
    refine .insert (.rule rfl (.token (t := .of "sometimes" none) (by decide)
      (.unknown (by decide)))) (.keep ?_)
    refine .insert (.text (.token (by decide) between)) ?_
    refine .insert (.text (.token (by decide) after)) ?_
    refine .insert (.text (.token (t := .of "regex" (some "")) (by decide)
      (.noPattern rfl (.inr rfl)))) .nil
  have code : Padded (fun s => RuleAtom.IsIdleText s ∧ '|' ∉ s.toList) ["nullable", "max:3"]
      ["nullable", "", "max:3", "Required"] := by
    refine .keep (.insert ⟨.blank (by decide), by decide⟩ (.keep (.insert ⟨?_, by decide⟩ .nil)))
    exact .token (t := .of "Required" none) (by decide) (.unknown (by decide))
  have more : List.Forall₂ (fun m m' => m.1 = m'.1 ∧ m.2.WithIdleRules m'.2) members members' :=
    .cons ⟨rfl, .list age⟩ (.cons ⟨rfl, .text code⟩ .nil)
  exact ⟨more, idle_rules_ignored more⟩

end RawRuleSet

end FormRules
