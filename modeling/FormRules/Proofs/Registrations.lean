import Mathlib.Tactic.SplitIfs
import FormRules.Payload
import FormRules.Proofs.Merging

/-!
# Registered rules

Rules for the actions of handlers are registered one after the other, and later
ones replace earlier ones.  A page gets the rules that were registered last for
the action it submits to; whatever else was registered makes no difference.
-/

namespace FormRules

/-! ## Empty rule sets -/

namespace OrderedMap

variable {α : Type} {entries : List (String × α)}

theorem isEmpty_ofList : (ofList entries).isEmpty = true ↔ entries = [] := by
  cases entries using List.reverseRecOn with
  | nil => simp [ofList, insertAll, isEmpty, empty]
  | append_singleton entries e =>
      have present : (ofList (entries ++ [e])).get? e.1 = some e.2 := by
        rw [ofList_concat, get?_insert, if_pos rfl]
      simp only [isEmpty_iff, List.append_eq_nil_iff, List.cons_ne_self, and_false, iff_false]
      intro absent
      rw [absent] at present
      cases present

end OrderedMap

theorem RawRuleSet.isEmpty_ofJson {rules : Json} :
    (ofJson rules).isEmpty = true ↔ rules.members = [] := by
  rw [ofJson_eq_ofList, OrderedMap.isEmpty_ofList, List.map_eq_nil_iff]

theorem Json.members_getD_eq_nil_iff {last : Option Json} :
    (last.getD .null).members = [] ↔ ∀ members, last = some (.object members) → members = [] := by
  rcases last with _ | ⟨_ | _ | _ | _ | _ | members⟩ <;> simp [Json.members, asObject?]

/-! ## Histories -/

structure Registration where
  handler : String
  action : String
  rules : Json

namespace Registration

def concerns (handler action : String) (r : Registration) : Bool :=
  r.handler = handler && r.action = action

def last? (handler action : String) (history : List Registration) : Option Json :=
  (history.reverse.find? (concerns handler action)).map rules

variable {handler action : String} {history : List Registration}

theorem last?_concat (r : Registration) :
    last? handler action (history ++ [r]) =
      if r.concerns handler action then some r.rules else last? handler action history := by
  unfold last?
  rw [List.reverse_append]
  cases h : r.concerns handler action <;> simp [h]

/-- Registrations may be left out if none of them is for the action. -/
theorem last?_filter {keep : Registration → Bool}
    (kept : ∀ r, r.concerns handler action = true → keep r = true) :
    last? handler action (history.filter keep) = last? handler action history := by
  unfold last?
  rw [← List.filter_reverse, List.find?_filter]
  congr 2
  funext r
  cases h : r.concerns handler action with
  | false => simp
  | true => simp [kept r h]

end Registration

namespace Catalogue

def after (c : Catalogue) (r : Registration) : Catalogue :=
  c.register r.handler r.action r.rules

/-- The catalogue that a history of registrations builds. -/
def ofHistory (history : List Registration) : Catalogue :=
  history.foldl after empty

variable {handler action : String}

theorem ofHistory_concat (history : List Registration) (r : Registration) :
    ofHistory (history ++ [r]) = (ofHistory history).after r := by
  simp [ofHistory]

theorem rules?_after (c : Catalogue) (r : Registration) :
    (c.after r).rules? handler action =
      if r.concerns handler action then some r.rules else c.rules? handler action := by
  unfold after register rules?
  rw [OrderedMap.get?_insert]
  by_cases own : handler = r.handler
  · -- The other actions of the handler are carried over from the actions it had, if any.
    subst own
    by_cases same : action = r.action
    · simp [Registration.concerns, OrderedMap.get?_insert, same]
    · have same' : r.action ≠ action := fun h => same h.symm
      cases h : c.handlers.get? r.handler <;>
        simp [Registration.concerns, OrderedMap.get?_insert, same, same']
  · have own' : r.handler ≠ handler := fun h => own h.symm
    simp [Registration.concerns, own, own']

theorem rules?_ofHistory (history : List Registration) :
    (ofHistory history).rules? handler action = Registration.last? handler action history := by
  induction history using List.reverseRecOn with
  | nil => rfl
  | append_singleton history r ih =>
      rw [ofHistory_concat, rules?_after, Registration.last?_concat, ih]

end Catalogue

/-! ## Payloads -/

theorem validationAction?_eq_none_iff {action : String} :
    validationAction? action = none ↔ action = "show" ∨ action = "index" := by
  unfold validationAction?
  split_ifs with create edit shows
  · simp [create]
  · simp [edit]
  · simpa using shows
  · simpa using shows

/-- A page that creates something needs the rules of the action that stores it, a page that edits
something those of the action that updates it.  Any other page needs its own, or none. -/
theorem validationAction?_eq_some_iff {action method : String} :
    validationAction? action = some method ↔
      (action = "create" ∧ method = "store") ∨ (action = "edit" ∧ method = "update") ∨
        (action ∉ ["create", "edit", "show", "index"] ∧ method = action) := by
  unfold validationAction?
  split_ifs with create edit shows
  · simp [create, eq_comm]
  · simp [edit, eq_comm]
  · simp only [Bool.or_eq_true, decide_eq_true_eq] at shows
    rcases shows with rfl | rfl <;> simp
  · simp only [Bool.or_eq_true, decide_eq_true_eq, not_or] at shows
    simp [create, edit, shows, eq_comm]

namespace Payload

variable (history : List Registration) {handler action method : String}

theorem build?_of_readOnly (c : Catalogue) (readOnly : validationAction? action = none) :
    build? c handler action = none := by
  simp [build?, readOnly]

theorem build?_ofHistory (submits : validationAction? action = some method) :
    let last := (Registration.last? handler method history).getD .null
    build? (Catalogue.ofHistory history) handler action =
      if last.members = [] then none
      else some (new (RawRuleSet.ofJson last).normalize method action) := by
  intro last
  have raw : (Catalogue.ofHistory history).rulesFor handler method = RawRuleSet.ofJson last := by
    unfold Catalogue.rulesFor
    rw [Catalogue.rules?_ofHistory]
    cases h : Registration.last? handler method history <;> simp [last, h, RawRuleSet.ofJson]
  simp [build?, submits, raw, RawRuleSet.isEmpty_ofJson]

/-- Registrations for other handlers, or for other actions than the one a page submits to, may as
well not have happened. -/
theorem build?_filter (handler action : String) :
    build? (Catalogue.ofHistory (history.filter fun r =>
      r.handler = handler && validationAction? action = some r.action)) handler action =
        build? (Catalogue.ofHistory history) handler action := by
  cases submits : validationAction? action with
  | none => rw [build?_of_readOnly _ submits, build?_of_readOnly _ submits]
  | some method =>
      have relevant : Registration.last? handler method (history.filter fun r =>
          r.handler = handler && some method = some r.action) =
            Registration.last? handler method history := by
        apply Registration.last?_filter
        intro r h
        simp only [Registration.concerns, Bool.and_eq_true, decide_eq_true_eq] at h
        simp [h]
      rw [build?_ofHistory _ submits, relevant, ← build?_ofHistory history submits]

/-- A page gets no payload if it only shows, or if the rules registered last for the action it
submits to are missing or have no members.  Otherwise it gets exactly those rules in normal form,
with their interface and the names of both actions.  No other registration makes a difference. -/
theorem built_from_last_registration (history : List Registration) (handler action : String) :
    let built := build? (Catalogue.ofHistory history) handler action
    (built = none ↔ action = "show" ∨ action = "index" ∨
      ∃ method, validationAction? action = some method ∧
        ∀ members, Registration.last? handler method history = some (.object members) →
          members = []) ∧
    (∀ method members, validationAction? action = some method →
      Registration.last? handler method history = some (.object members) → members ≠ [] →
      let rules := (RawRuleSet.ofJson (.object members)).normalize
      let declaration := Declaration.text Declaration.defaultName rules
      built = some { rules, declaration, method, action }) ∧
    build? (Catalogue.ofHistory (history.filter fun r =>
      r.handler = handler && validationAction? action = some r.action)) handler action = built := by
  intro built
  refine ⟨?_, ?_, build?_filter history handler action⟩
  · rw [← or_assoc, ← validationAction?_eq_none_iff]
    cases submits : validationAction? action with
    | none => simp [built, build?_of_readOnly _ submits]
    | some method =>
        calc built = none
            ↔ ((Registration.last? handler method history).getD .null).members = [] := by
              unfold built
              rw [build?_ofHistory history submits]
              split <;> simp [*]
          _ ↔ ∀ members, Registration.last? handler method history = some (.object members) →
                members = [] := Json.members_getD_eq_nil_iff
          _ ↔ _ := by simp
  · intro method members submits registered present
    have found : (Registration.last? handler method history).getD .null = .object members := by
      rw [registered]
      rfl
    have nonempty : (Json.object members).members ≠ [] := present
    unfold built
    rw [build?_ofHistory history submits, found, if_neg nonempty]
    rfl

/-- The page `create` submits to `store`.  New rules replace the old ones as a whole, and neither
those of another handler nor those of `create` itself are asked for. -/
example :
    build? (Catalogue.ofHistory
      [⟨"Users", "store", .object [("age", .string "integer")]⟩,
        ⟨"Users", "store", .object [("name", .string "required")]⟩,
        ⟨"Posts", "store", .object [("title", .string "string")]⟩,
        ⟨"Users", "create", .object [("mail", .string "email")]⟩]) "Users" "create" =
      some {
        rules := OrderedMap.empty.insert "name" { required := true }
        declaration := "export interface FormData \x7b\n  name: string;\n\x7d"
        method := "store"
        action := "create" } := by
  decide

end Payload

end FormRules
