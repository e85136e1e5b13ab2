import Mathlib.Data.List.Induction
import FormRules.Proofs.OrderedMap

/-!
# Order and values of insertions

A map that was built by insertions has its keys in the order of their first
insertion, each with the value inserted last.  So a map is settled by the list
of all that was inserted, and it does not matter in which portions, each a map
of its own, the list came.
-/

namespace FormRules

/-! ## First appearances -/

namespace Entries

theorem eraseDups_concat (keys : List String) (key : String) :
    (keys ++ [key]).eraseDups =
      if key ∈ keys then keys.eraseDups else keys.eraseDups ++ [key] := by
  rw [List.eraseDups_append, List.removeAll]
  by_cases h : key ∈ keys <;> simp [h, List.eraseDups_cons]

theorem eraseDups_append_eraseDups (front keys : List String) :
    (front ++ keys.eraseDups).eraseDups = (front ++ keys).eraseDups := by
  -- From the end, since it is the last key that is or is not a repetition of an earlier one.
  induction keys using List.reverseRecOn with
  | nil => rfl
  | append_singleton keys key ih =>
      rw [eraseDups_concat, ← List.append_assoc, eraseDups_concat]
      by_cases old : key ∈ keys
      · simp [old, ih]
      · rw [if_neg old, ← List.append_assoc, eraseDups_concat, ih]
        simp [List.mem_eraseDups]

/-! ## Last values -/

variable {α : Type} {key : String} {xs ys entries : List (String × α)}

def last? (key : String) (entries : List (String × α)) : Option α :=
  get? key entries.reverse

theorem get?_append : get? key (xs ++ ys) = (get? key xs).or (get? key ys) := by
  induction xs with
  | nil => rfl
  | cons e rest ih =>
      obtain ⟨k, a⟩ := e
      rw [List.cons_append, get?_cons, get?_cons, ih]
      split <;> rfl

theorem last?_append : last? key (xs ++ ys) = (last? key ys).or (last? key xs) := by
  unfold last?
  rw [List.reverse_append, get?_append]

theorem last?_concat (k : String) (a : α) :
    last? key (entries ++ [(k, a)]) = if key = k then some a else last? key entries := by
  rw [last?_append]
  by_cases h : k = key
  · simp [last?, get?, h]
  · have h' : key ≠ k := fun e => h e.symm
    simp [last?, get?, h, h']

theorem get?_eq_some_iff (hn : (keys entries).Nodup) {a : α} :
    get? key entries = some a ↔ (key, a) ∈ entries := by
  induction entries with
  | nil => simp
  | cons e rest ih =>
      obtain ⟨k, b⟩ := e
      simp only [keys, List.map_cons, List.nodup_cons] at hn
      rw [get?_cons, List.mem_cons, Prod.mk.injEq]
      by_cases hk : k = key
      · subst hk
        have other : (k, a) ∉ rest := fun h => hn.1 (List.mem_map_of_mem (f := Prod.fst) h)
        simp [other, eq_comm]
      · have hk' : key ≠ k := fun h => hk h.symm
        rw [if_neg hk, ih hn.2]
        simp [hk']

theorem last?_of_nodup (hn : (keys entries).Nodup) : last? key entries = get? key entries := by
  have reversed : (keys entries.reverse).Nodup := by
    unfold keys
    rw [List.map_reverse]
    exact (List.reverse_perm (keys entries)).nodup_iff.2 hn
  apply Option.ext
  intro a
  rw [last?, get?_eq_some_iff reversed, get?_eq_some_iff hn, List.mem_reverse]

theorem last?_flatMap {β : Type} (f : β → List (String × α)) (items : List β) :
    last? key (items.flatMap f) = items.reverse.findSome? fun b => last? key (f b) := by
  induction items with
  | nil => rfl
  | cons b rest ih =>
      rw [List.flatMap_cons, last?_append, ih, List.reverse_cons, List.findSome?_append]
      simp

theorem last?_map {β : Type} (f : String → α → β) :
    last? key (entries.map fun e => (e.1, f e.1 e.2)) = (last? key entries).map (f key) := by
  unfold last?
  rw [← List.map_reverse, get?_map]

theorem keys_insert (key : String) (a : α) :
    keys (insert key a entries) =
      if key ∈ keys entries then keys entries else keys entries ++ [key] := by
  induction entries with
  | nil => simp [insert, keys]
  | cons e rest ih =>
      obtain ⟨k, b⟩ := e
      by_cases hk : k = key
      · simp [insert, keys, hk]
      · have hk' : key ≠ k := fun h => hk h.symm
        simp only [keys] at ih
        simp only [insert, hk, if_false, keys, List.map_cons, ih, List.mem_cons, hk', false_or]
        by_cases old : key ∈ List.map Prod.fst rest <;> simp [old]

/-- Entries with distinct keys are settled by the order of the keys and by their values. -/
theorem ext_get? (hn : (keys xs).Nodup) (names : keys xs = keys ys)
    (values : ∀ key, get? key xs = get? key ys) : xs = ys := by
  induction xs generalizing ys with
  | nil => exact (List.map_eq_nil_iff.1 names.symm).symm
  | cons e rest ih =>
      cases ys with
      | nil => cases names
      | cons e' rest' =>
          obtain ⟨k, a⟩ := e
          obtain ⟨k', a'⟩ := e'
          simp only [keys, List.map_cons, List.cons.injEq] at names
          obtain ⟨rfl, tail⟩ := names
          obtain ⟨fresh, hn⟩ := List.nodup_cons.1 hn
          have head : a = a' := by simpa [get?_cons] using values k
          have later : rest = rest' := by
            refine ih hn tail fun key => ?_
            by_cases hk : k = key
            · subst hk
              have fresh' : k ∉ keys rest' := by
                unfold keys
                rw [← tail]
                exact fresh
              rw [get?_eq_none_iff.2 fresh, get?_eq_none_iff.2 fresh']
            · simpa [get?_cons, hk] using values key
          rw [head, later]

end Entries

/-! ## Maps from insertions -/

namespace OrderedMap

variable {α : Type} {key : String} {xs ys entries : List (String × α)}

theorem ofList_append : ofList (xs ++ ys) = (ofList xs).insertAll ys := by
  unfold ofList insertAll
  rw [List.foldl_append]

theorem ofList_concat (k : String) (a : α) :
    ofList (entries ++ [(k, a)]) = (ofList entries).insert k a := by
  rw [ofList_append]
  rfl

theorem keys_ofList (entries : List (String × α)) :
    (ofList entries).keys = (Entries.keys entries).eraseDups := by
  induction entries using List.reverseRecOn with
  | nil => rfl
  | append_singleton entries e ih =>
      have step : ((ofList entries).insert e.1 e.2).keys =
          if e.1 ∈ (ofList entries).keys then (ofList entries).keys
          else (ofList entries).keys ++ [e.1] := Entries.keys_insert e.1 e.2
      have names : Entries.keys (entries ++ [e]) = Entries.keys entries ++ [e.1] := by
        simp [Entries.keys]
      rw [ofList_concat, step, ih, names, Entries.eraseDups_concat]
      simp only [List.mem_eraseDups]

theorem get?_ofList (entries : List (String × α)) (key : String) :
    (ofList entries).get? key = Entries.last? key entries := by
  induction entries using List.reverseRecOn with
  | nil => rfl
  | append_singleton entries e ih =>
      rw [ofList_concat, get?_insert, ih, Entries.last?_concat]

theorem ext_get? {m n : OrderedMap α} (names : m.keys = n.keys)
    (values : ∀ key, m.get? key = n.get? key) : m = n :=
  OrderedMap.ext (Entries.ext_get? m.nodup names values)

theorem ofList_append_ofList : ofList (xs ++ (ofList ys).entries) = ofList (xs ++ ys) := by
  -- Inserting `ys` through a map of its own loses only what would be overwritten anyway.
  apply ext_get?
  · rw [keys_ofList, keys_ofList]
    simp only [Entries.keys, List.map_append]
    have inner : List.map Prod.fst (ofList ys).entries = (ys.map Prod.fst).eraseDups :=
      keys_ofList ys
    rw [inner, Entries.eraseDups_append_eraseDups]
  · intro key
    have inner : Entries.last? key (ofList ys).entries = Entries.last? key ys := by
      rw [Entries.last?_of_nodup (ofList ys).nodup]
      exact get?_ofList ys key
    rw [get?_ofList, get?_ofList, Entries.last?_append, Entries.last?_append, inner]

theorem extend_ofList : (ofList xs).extend (ofList ys) = ofList (xs ++ ys) := by
  unfold extend
  rw [← ofList_append, ofList_append_ofList]

/-- Maps that extend one another add up to the list of all that was inserted into any of them. -/
theorem foldl_extend {β : Type} (entriesOf : β → List (String × α)) (items : List β)
    (entries : List (String × α)) :
    items.foldl (fun m b => m.extend (ofList (entriesOf b))) (ofList entries) =
      ofList (entries ++ items.flatMap entriesOf) := by
  induction items generalizing entries with
  | nil => simp
  | cons b rest ih => rw [List.foldl_cons, extend_ofList, ih, List.flatMap_cons, List.append_assoc]

end OrderedMap

end FormRules
