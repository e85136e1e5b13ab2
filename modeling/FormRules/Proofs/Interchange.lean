import Mathlib.Data.List.Forall2
import Mathlib.Logic.Relation
import FormRules.Proofs.IdleRules
import FormRules.Proofs.Pieces

/-!
# Interchangeable forms of rules

The rules of a field can be one text with bars between the atoms, or a list, and
an item of a list can be a descriptor instead of its text.  Going from one form
to another changes no token, and so a form's rules do not depend on how each of
its fields spells them.
-/

namespace FormRules

/-! ## Forms of one specification -/

namespace RuleSpec

/-- The second specification is the first one in another form: a text as the list of its atoms, a
list of texts as one text, or a list with one descriptor as its text or, if it has none, left
out. -/
inductive Respelled : RuleSpec → RuleSpec → Prop where
  | split {s : String} {texts : List String} (split : Text.SplitsInto '|' s texts) :
      Respelled (.pipe s) (.list (texts.map .text))
  | join {texts : List String} (free : ∀ s ∈ texts, '|' ∉ s.toList) :
      Respelled (.list (texts.map .text)) (.pipe (Text.joinTexts "|" texts))
  | render {d : Descriptor} {text : String} {before after : List RuleAtom}
      (rendered : d.render = some text) :
      Respelled (.list (before ++ .descriptor d :: after)) (.list (before ++ .text text :: after))
  | drop {d : Descriptor} {before after : List RuleAtom} (silent : d.render = none) :
      Respelled (.list (before ++ .descriptor d :: after)) (.list (before ++ after))

theorem tokens_list_texts (texts : List String) :
    (list (texts.map .text)).tokens = texts.filterMap RuleToken.parse? := by
  unfold tokens atoms
  rw [List.filterMap_map]
  rfl

theorem tokens_list_append (xs ys : List RuleAtom) :
    (list (xs ++ ys)).tokens = (list xs).tokens ++ (list ys).tokens := by
  unfold tokens atoms
  exact List.filterMap_append

/-- Bars between the texts of a list divide it as the list does; no text at all and the empty text
both have no token. -/
theorem tokens_list_joined {texts : List String} (free : ∀ s ∈ texts, '|' ∉ s.toList) :
    (list (texts.map .text)).tokens = (pipe (Text.joinTexts "|" texts)).tokens := by
  rw [tokens_list_texts, tokens_pipe]
  cases texts with
  | nil => rfl
  | cons s rest =>
      have split : Text.piecesOf '|' (Text.joinTexts "|" (s :: rest)) = s :: rest :=
        Text.piecesOf_joinTexts (by simp) free
      rw [split]

theorem tokens_list_rendered (before after : List RuleAtom) (d : Descriptor) :
    (list (before ++ .descriptor d :: after)).tokens =
      (list (before ++ d.render.toList.map .text ++ after)).tokens := by
  -- Enough for the descriptor alone, as the tokens of a list are those of its parts.
  have one : (list [.descriptor d]).tokens = (list (d.render.toList.map .text)).tokens := by
    unfold tokens atoms
    cases h : d.render with
    | none =>
        have token : (RuleAtom.descriptor d).token? = none := by
          simp [RuleAtom.token?, RuleAtom.render, h]
        simp [token]
    | some text =>
        have token : (RuleAtom.descriptor d).token? = (RuleAtom.text text).token? := by
          simp [RuleAtom.token?, RuleAtom.render, h]
        simp [List.filterMap_cons, token]
  have cons : RuleAtom.descriptor d :: after = [.descriptor d] ++ after := rfl
  rw [cons, List.append_assoc, tokens_list_append, tokens_list_append, tokens_list_append,
    tokens_list_append, one]

theorem Respelled.tokens {spec spec' : RuleSpec} (respelled : Respelled spec spec') :
    spec.tokens = spec'.tokens := by
  cases respelled with
  | split split =>
      rw [tokens_pipe, tokens_list_texts, split.eq_piecesOf]
  | join free => exact tokens_list_joined free
  | render rendered =>
      rw [tokens_list_rendered, rendered]
      simp
  | drop silent =>
      rw [tokens_list_rendered, silent]
      simp

/-- Any number of changes of form, forwards and backwards, changes no token. -/
theorem tokens_of_eqvGen {spec spec' : RuleSpec} (respelled : Relation.EqvGen Respelled spec spec') :
    spec.tokens = spec'.tokens := by
  induction respelled with
  | rel spec spec' h => exact h.tokens
  | refl spec => rfl
  | symm spec spec' _ ih => exact ih.symm
  | trans spec spec' spec'' _ _ ih ih' => exact ih.trans ih'

end RuleSpec

/-! ## Forms of a rule set -/

namespace RawRuleSet

/-- Fields with the same names in the same order, whose specifications differ in form only, give
the same rules. -/
theorem normalize_congr {raw raw' : RawRuleSet}
    (respelled : List.Forall₂
      (fun e e' => e.1 = e'.1 ∧ Relation.EqvGen RuleSpec.Respelled e.2 e'.2)
      raw.entries raw'.entries) : raw.normalize = raw'.normalize := by
  have same : List.Forall₂ (fun e e' => (e.1, e.2.normalize e.1) = (e'.1, e'.2.normalize e'.1))
      raw.entries raw'.entries := by
    refine respelled.imp fun e e' h => ?_
    obtain ⟨field, spec⟩ := h
    unfold RuleSpec.normalize
    rw [field, RuleSpec.tokens_of_eqvGen spec]
  have mapped := List.forall₂_map_left_iff.2 (List.forall₂_map_right_iff.2 same)
  rw [List.forall₂_eq_eq_eq] at mapped
  exact OrderedMap.ext mapped

/-- A text has the tokens of the list of the atoms between its bars, a list of texts without bars
those of the text with bars between them, and a descriptor that of its text.  Fields which are
respelled in these ways, however often, give the same rules in the same order. -/
theorem forms_interchangeable :
    (∀ s, Text.SplitsInto '|' s (Text.piecesOf '|' s) ∧
      (RuleSpec.pipe s).tokens = (RuleSpec.list ((Text.piecesOf '|' s).map .text)).tokens) ∧
    (∀ texts : List String, (∀ s ∈ texts, '|' ∉ s.toList) →
      (RuleSpec.list (texts.map .text)).tokens =
        (RuleSpec.pipe (Text.joinTexts "|" texts)).tokens) ∧
    (∀ (before after : List RuleAtom) (d : Descriptor),
      (RuleSpec.list (before ++ .descriptor d :: after)).tokens =
        (RuleSpec.list (before ++ d.render.toList.map .text ++ after)).tokens) ∧
    ∀ raw raw' : RawRuleSet,
      List.Forall₂ (fun e e' => e.1 = e'.1 ∧ Relation.EqvGen RuleSpec.Respelled e.2 e'.2)
        raw.entries raw'.entries →
      raw.normalize = raw'.normalize := by
  refine ⟨fun s => ?_, fun texts => RuleSpec.tokens_list_joined,
    fun before after d => RuleSpec.tokens_list_rendered before after d,
    fun raw raw' => normalize_congr⟩
  have split := Text.splitsInto_piecesOf '|' s
  exact ⟨split, (RuleSpec.Respelled.split split).tokens⟩

/-- A text with blank atoms as a list in which a descriptor stands for one atom and another
descriptor has no text. -/
theorem account_forms_interchangeable :
    let raw : RawRuleSet := OrderedMap.ofList
      [("mail", .pipe " required ||in:a, b|unique:users,mail"), ("age", .list [])]
    let raw' : RawRuleSet := OrderedMap.ofList
      [("mail", .list [.text " required ", .text "", .text "in:a, b", .descriptor (.oneOf []),
        .descriptor (.unique "users" (some "mail") none)]), ("age", .pipe "")]
    List.Forall₂ (fun e e' => e.1 = e'.1 ∧ Relation.EqvGen RuleSpec.Respelled e.2 e'.2)
        raw.entries raw'.entries ∧
      raw.normalize = raw'.normalize := by
  intro raw raw'
  have mail : Relation.EqvGen RuleSpec.Respelled (.pipe " required ||in:a, b|unique:users,mail")
      (.list [.text " required ", .text "", .text "in:a, b", .descriptor (.oneOf []),
        .descriptor (.unique "users" (some "mail") none)]) := by
    have split := RuleSpec.Respelled.split
      (Text.splitsInto_piecesOf '|' " required ||in:a, b|unique:users,mail")
    have dropped := @RuleSpec.Respelled.drop (.oneOf [])
      [.text " required ", .text "", .text "in:a, b"]
      [.descriptor (.unique "users" (some "mail") none)] rfl
    have rendered := @RuleSpec.Respelled.render (.unique "users" (some "mail") none)
      "unique:users,mail" [.text " required ", .text "", .text "in:a, b"] [] rfl
    exact .trans _ _ _ (.rel _ _ split)
      (.trans _ _ _ (.symm _ _ (.rel _ _ rendered)) (.symm _ _ (.rel _ _ dropped)))
  have age : Relation.EqvGen RuleSpec.Respelled (.list []) (.pipe "") :=
    .rel _ _ (@RuleSpec.Respelled.join [] (by simp))
  have respelled : List.Forall₂
      (fun e e' => e.1 = e'.1 ∧ Relation.EqvGen RuleSpec.Respelled e.2 e'.2)
      raw.entries raw'.entries := .cons ⟨rfl, mail⟩ (.cons ⟨rfl, age⟩ .nil)
  exact ⟨respelled, forms_interchangeable.2.2.2 raw raw' respelled⟩

end RawRuleSet

end FormRules
