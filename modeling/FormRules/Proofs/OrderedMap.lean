import FormRules.OrderedMap

/-!
# Lookup and order of entries

What a lookup finds in a list of entries, and what building a map from a list
keeps: a list whose keys are distinct is the map's list of entries.
-/

namespace FormRules

/-! ## Entry lists -/

namespace Entries

variable {α β : Type} {key : String} {a : α} {entries : List (String × α)}

@[simp] theorem get?_nil : get? key ([] : List (String × α)) = none := rfl

theorem get?_cons {k : String} : get? key ((k, a) :: entries) =
    if k = key then some a else get? key entries := rfl

theorem mem_of_get? (h : get? key entries = some a) : (key, a) ∈ entries := by
  induction entries with
  | nil => simp at h
  | cons e rest ih =>
      obtain ⟨k, b⟩ := e
      rw [get?_cons] at h
      split at h
      · rename_i hk
        cases h
        simp [hk]
      · exact List.mem_cons_of_mem _ (ih h)

theorem get?_eq_none_iff : get? key entries = none ↔ key ∉ keys entries := by
  induction entries with
  | nil => simp [keys]
  | cons e rest ih =>
      obtain ⟨k, b⟩ := e
      rw [get?_cons]
      by_cases hk : k = key
      · simp [hk, keys]
      · have hk' : key ≠ k := fun h => hk h.symm
        rw [if_neg hk, ih]
        simp [keys, hk']

theorem get?_map (f : String → α → β) :
    get? key (entries.map fun e => (e.1, f e.1 e.2)) = (get? key entries).map (f key) := by
  induction entries with
  | nil => rfl
  | cons e rest ih =>
      obtain ⟨k, b⟩ := e
      simp only [List.map_cons, get?_cons]
      split
      · rename_i hk
        simp [hk]
      · exact ih

theorem keys_map (f : String × α → β) : keys (entries.map fun e => (e.1, f e)) = keys entries := by
  simp [keys, Function.comp_def]

theorem keys_filterMap_sublist (f : String → α → Option β) :
    (keys (entries.filterMap fun e => (f e.1 e.2).map fun b => (e.1, b))).Sublist
      (keys entries) := by
  induction entries with
  | nil => simp [keys]
  | cons e rest ih =>
      simp only [keys, List.map_cons] at ih ⊢
      cases hf : f e.1 e.2 with
      | none =>
          rw [List.filterMap_cons_none (by simp [hf])]
          exact ih.trans (List.sublist_cons_self ..)
      | some b =>
          rw [List.filterMap_cons_some (b := (e.1, b)) (by simp [hf])]
          exact ih.cons_cons e.1

/-- A partial function of the values acts below the lookup, as no other entry has the key. -/
theorem get?_filterMap (hn : (keys entries).Nodup) (f : String → α → Option β) :
    get? key (entries.filterMap fun e => (f e.1 e.2).map fun b => (e.1, b)) =
      (get? key entries).bind (f key) := by
  induction entries with
  | nil => rfl
  | cons e rest ih =>
      obtain ⟨k, a⟩ := e
      simp only [keys, List.map_cons, List.nodup_cons] at hn
      rw [get?_cons]
      cases hf : f k a with
      | some b =>
          rw [List.filterMap_cons_some (b := (k, b)) (by simp [hf]), get?_cons]
          split
          · rename_i hk
            simp [← hk, hf]
          · exact ih hn.2
      | none =>
          rw [List.filterMap_cons_none (by simp [hf]), ih hn.2]
          split
          · rename_i hk
            subst hk
            rw [get?_eq_none_iff.2 hn.1]
            simp [hf]
          · rfl

theorem mem_keys_iff : key ∈ keys entries ↔ (get? key entries).isSome = true := by
  rw [← Option.ne_none_iff_isSome, ne_eq, get?_eq_none_iff, Classical.not_not]

/-- Leaving entries out by their keys leaves the lookup of the other keys as it is. -/
theorem get?_filter (keep : String → Bool) :
    get? key (entries.filter fun e => keep e.1) =
      if keep key then get? key entries else none := by
  induction entries with
  | nil => simp
  | cons e rest ih =>
      obtain ⟨k, b⟩ := e
      by_cases hk : k = key
      · subst hk
        cases hp : keep k with
        | true => simp [hp, get?_cons]
        | false => simpa [hp] using ih
      · cases hp : keep k with
        | true => simpa [hp, get?_cons, hk] using ih
        | false => simpa [hp, get?_cons, hk] using ih

theorem get?_erase {k : String} :
    get? k (erase key entries) = if k = key then none else get? k entries := by
  unfold erase
  rw [get?_filter fun k => k ≠ key]
  by_cases hk : k = key <;> simp [hk]

/-- An insertion leaves the entries under other keys as they are, in their order. -/
theorem filter_insert : (insert key a entries).filter (fun e => e.1 ≠ key) =
    entries.filter fun e => e.1 ≠ key := by
  induction entries with
  | nil => simp [insert]
  | cons e rest ih =>
      obtain ⟨k, b⟩ := e
      unfold insert
      split
      · rename_i hk
        simp [hk]
      · rename_i hk
        simpa [hk] using ih

theorem insert_of_mem (hn : (keys entries).Nodup) (h : key ∈ keys entries) :
    insert key a entries = entries.map fun e => if e.1 = key then (key, a) else e := by
  induction entries with
  | nil => simp [keys] at h
  | cons e rest ih =>
      obtain ⟨k, b⟩ := e
      simp only [keys, List.map_cons, List.nodup_cons, List.mem_cons] at hn h
      unfold insert
      by_cases hk : k = key
      · -- No later entry has the key, so the map changes none of them.
        have hr : rest.map (fun e => if e.1 = key then (key, a) else e) = rest := by
          have same : ∀ e ∈ rest, (if e.1 = key then (key, a) else e) = e := by
            intro e he
            have hne : e.1 ≠ key := by
              rintro rfl
              exact hn.1 (hk ▸ List.mem_map_of_mem he)
            rw [if_neg hne]
          exact (List.map_congr_left same).trans (List.map_id' rest)
        simp [hk, hr]
      · have hm : key ∈ keys rest := h.resolve_left fun e => hk e.symm
        simp [hk, ih hn.2 hm]

theorem map_insert (f : String → α → β) :
    (insert key a entries).map (fun e => (e.1, f e.1 e.2)) =
      insert key (f key a) (entries.map fun e => (e.1, f e.1 e.2)) := by
  induction entries with
  | nil => rfl
  | cons e rest ih =>
      obtain ⟨k, b⟩ := e
      by_cases hk : k = key
      · simp [insert, hk]
      · simp [insert, hk, ih]

theorem insert_of_not_mem (h : key ∉ keys entries) :
    insert key a entries = entries ++ [(key, a)] := by
  induction entries with
  | nil => rfl
  | cons e rest ih =>
      obtain ⟨k, b⟩ := e
      simp only [keys, List.map_cons, List.mem_cons, not_or] at h
      have hk : k ≠ key := fun hk => h.1 hk.symm
      simp only [insert, if_neg hk, List.cons_append]
      rw [ih h.2]

/-- Entries with new and distinct keys are appended one after the other. -/
theorem foldl_insert_of_nodup {more : List (String × α)} (hn : (keys (entries ++ more)).Nodup) :
    more.foldl (fun acc e => insert e.1 e.2 acc) entries = entries ++ more := by
  induction more generalizing entries with
  | nil => simp
  | cons e rest ih =>
      have hm : e.1 ∉ keys entries := by
        simp only [keys, List.map_append, List.map_cons] at hn
        intro h
        exact (List.nodup_append.1 hn).2.2 _ h _ List.mem_cons_self rfl
      rw [List.foldl_cons, insert_of_not_mem hm, ih (by simpa using hn)]
      simp

theorem ofList_of_nodup (hn : (keys entries).Nodup) : ofList entries = entries :=
  foldl_insert_of_nodup (by simpa using hn)

end Entries

/-! ## Maps -/

namespace OrderedMap

variable {α β : Type} {key : String} {entries : List (String × α)}

theorem entries_insertAll (m : OrderedMap α) :
    (m.insertAll entries).entries =
      entries.foldl (fun acc e => Entries.insert e.1 e.2 acc) m.entries := by
  unfold insertAll
  induction entries generalizing m with
  | nil => rfl
  | cons e rest ih => exact ih (m.insert e.1 e.2)

theorem entries_ofList (hn : (Entries.keys entries).Nodup) :
    (ofList entries).entries = entries := by
  unfold ofList
  rw [entries_insertAll]
  exact Entries.ofList_of_nodup hn

theorem ofList_entries (m : OrderedMap α) : ofList m.entries = m :=
  OrderedMap.ext (entries_ofList m.nodup)

theorem mapValues_ofList (f : String → α → β) :
    (ofList entries).mapValues f = ofList (entries.map fun e => (e.1, f e.1 e.2)) := by
  have step (m : OrderedMap α) (key : String) (a : α) :
      (m.insert key a).mapValues f = (m.mapValues f).insert key (f key a) :=
    OrderedMap.ext (Entries.map_insert f)
  have all (m : OrderedMap α) : (m.insertAll entries).mapValues f =
      (m.mapValues f).insertAll (entries.map fun e => (e.1, f e.1 e.2)) := by
    unfold insertAll
    induction entries generalizing m with
    | nil => rfl
    | cons e rest ih => rw [List.foldl_cons, ih, step, List.map_cons, List.foldl_cons]
  exact all empty

theorem get?_mapValues (m : OrderedMap α) (f : String → α → β) :
    (m.mapValues f).get? key = (m.get? key).map (f key) :=
  Entries.get?_map f

theorem get?_erase (m : OrderedMap α) {k : String} :
    (m.erase key).get? k = if k = key then none else m.get? k :=
  Entries.get?_erase

@[simp] theorem get?_empty : (empty : OrderedMap α).get? key = none := rfl

theorem mem_keys_iff {m : OrderedMap α} : key ∈ m.keys ↔ (m.get? key).isSome = true :=
  Entries.mem_keys_iff

theorem isEmpty_iff {m : OrderedMap α} : m.isEmpty = true ↔ ∀ key, m.get? key = none := by
  unfold isEmpty get?
  rw [List.isEmpty_iff]
  constructor
  · intro h key
    simp [h]
  · intro h
    cases hm : m.entries with
    | nil => rfl
    | cons e rest =>
        obtain ⟨k, a⟩ := e
        have hk := h k
        simp [hm, Entries.get?_cons] at hk

/-- An insertion replaces the value of a key in its place, or appends a new entry. -/
theorem entries_insert (m : OrderedMap α) (a : α) :
    (m.insert key a).entries =
      if key ∈ m.keys then m.entries.map fun e => if e.1 = key then (key, a) else e
      else m.entries ++ [(key, a)] := by
  split
  · rename_i h
    exact Entries.insert_of_mem m.nodup h
  · rename_i h
    exact Entries.insert_of_not_mem h

theorem mem_entries_of_get? {m : OrderedMap α} {a : α} (h : m.get? key = some a) :
    (key, a) ∈ m.entries :=
  Entries.mem_of_get? h

end OrderedMap

end FormRules
