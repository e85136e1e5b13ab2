/-!
# Ordered maps

Entries with distinct text keys in the order of their first insertion.  A
replaced entry keeps its place.  The list operations come first; they serve
where the entries are part of a larger value.
-/

namespace FormRules

/-! ## Entry lists -/

namespace Entries

variable {α β : Type}

def get? (key : String) : List (String × α) → Option α
  | [] => none
  | (k, a) :: rest => if k = key then some a else get? key rest

/-- Replace the value under a key in place, or append a new entry. -/
def insert (key : String) (value : α) : List (String × α) → List (String × α)
  | [] => [(key, value)]
  | (k, a) :: rest =>
    if k = key then (key, value) :: rest else (k, a) :: insert key value rest

/-- Insert a value under a key and take out the one that it replaces. -/
def exchange (key : String) (value : α) : List (String × α) → Option α × List (String × α)
  | [] => (none, [(key, value)])
  | (k, a) :: rest =>
    if k = key then (some a, (key, value) :: rest)
    else
      let (old, rest) := exchange key value rest
      (old, (k, a) :: rest)

def erase (key : String) (entries : List (String × α)) : List (String × α) :=
  entries.filter fun e => e.1 ≠ key

def keys (entries : List (String × α)) : List String :=
  entries.map Prod.fst

def ofList (entries : List (String × α)) : List (String × α) :=
  entries.foldl (fun acc e => insert e.1 e.2 acc) []

theorem mem_keys_insert {key k : String} {value : α} {entries : List (String × α)} :
    k ∈ keys (insert key value entries) ↔ k = key ∨ k ∈ keys entries := by
  induction entries with
  | nil => simp [insert, keys]
  | cons e rest ih =>
      obtain ⟨k', a⟩ := e
      simp only [insert]
      split
      · rename_i h
        simp [keys, h]
      · simp only [keys, List.map_cons, List.mem_cons] at ih ⊢
        rw [ih]
        grind

theorem nodup_keys_insert {key : String} {value : α} {entries : List (String × α)}
    (h : (keys entries).Nodup) : (keys (insert key value entries)).Nodup := by
  induction entries with
  | nil => simp [insert, keys]
  | cons e rest ih =>
      obtain ⟨k, a⟩ := e
      have hr : (keys rest).Nodup := by
        simp only [keys, List.map_cons, List.nodup_cons] at h
        exact h.2
      simp only [insert]
      split
      · rename_i hk
        subst hk
        simpa [keys] using h
      · rename_i hk
        have hm := @mem_keys_insert α key k value rest
        simp only [keys, List.map_cons, List.nodup_cons] at h hm ⊢
        exact ⟨by rw [hm]; exact fun hc => hc.elim hk h.1, ih hr⟩

theorem nodup_keys_filter {entries : List (String × α)} {p : String × α → Bool}
    (h : (keys entries).Nodup) : (keys (entries.filter p)).Nodup :=
  h.sublist ((List.filter_sublist (p := p)).map Prod.fst)

theorem get?_insert {key k : String} {value : α} {entries : List (String × α)} :
    get? k (insert key value entries) = if k = key then some value else get? k entries := by
  induction entries with
  | nil => grind [insert, get?]
  | cons e rest ih => grind [insert, get?]

theorem exchange_eq {key : String} {value : α} {entries : List (String × α)} :
    exchange key value entries = (get? key entries, insert key value entries) := by
  induction entries with
  | nil => rfl
  | cons e rest ih =>
      obtain ⟨k, a⟩ := e
      simp only [exchange, get?, insert]
      split
      · rfl
      · rw [ih]

end Entries

/-! ## Maps -/

structure OrderedMap (α : Type) where
  entries : List (String × α)
  nodup : (Entries.keys entries).Nodup
deriving DecidableEq

namespace OrderedMap

variable {α β : Type}

theorem ext {m n : OrderedMap α} (h : m.entries = n.entries) : m = n := by
  cases m
  cases n
  cases h
  rfl

def empty : OrderedMap α :=
  ⟨[], by simp [Entries.keys]⟩

instance : Inhabited (OrderedMap α) := ⟨empty⟩

def keys (m : OrderedMap α) : List String :=
  Entries.keys m.entries

def size (m : OrderedMap α) : Nat :=
  m.entries.length

def isEmpty (m : OrderedMap α) : Bool :=
  m.entries.isEmpty

def get? (m : OrderedMap α) (key : String) : Option α :=
  Entries.get? key m.entries

def contains (m : OrderedMap α) (key : String) : Bool :=
  (m.get? key).isSome

def insert (m : OrderedMap α) (key : String) (value : α) : OrderedMap α :=
  ⟨Entries.insert key value m.entries, Entries.nodup_keys_insert m.nodup⟩

def exchange (m : OrderedMap α) (key : String) (value : α) : Option α × OrderedMap α :=
  ((Entries.exchange key value m.entries).1,
    ⟨(Entries.exchange key value m.entries).2, by
      rw [Entries.exchange_eq]
      exact Entries.nodup_keys_insert m.nodup⟩)

/-- Remove a key; the order of the other entries stays. -/
def erase (m : OrderedMap α) (key : String) : OrderedMap α :=
  ⟨Entries.erase key m.entries, Entries.nodup_keys_filter m.nodup⟩

def insertAll (m : OrderedMap α) (entries : List (String × α)) : OrderedMap α :=
  entries.foldl (fun acc e => acc.insert e.1 e.2) m

/-- Append every entry of another map; keys already present are replaced in place. -/
def extend (m other : OrderedMap α) : OrderedMap α :=
  m.insertAll other.entries

def ofList (entries : List (String × α)) : OrderedMap α :=
  empty.insertAll entries

def restrict (m : OrderedMap α) (keep : String → Bool) : OrderedMap α :=
  ⟨m.entries.filter fun e => keep e.1, Entries.nodup_keys_filter m.nodup⟩

def mapValues (m : OrderedMap α) (f : String → α → β) : OrderedMap β :=
  ⟨m.entries.map fun e => (e.1, f e.1 e.2), by
    have h : Entries.keys (m.entries.map fun e => (e.1, f e.1 e.2)) = Entries.keys m.entries := by
      simp [Entries.keys, List.map_map, Function.comp_def]
    rw [h]
    exact m.nodup⟩

theorem get?_insert {m : OrderedMap α} {key k : String} {value : α} :
    (m.insert key value).get? k = if k = key then some value else m.get? k :=
  Entries.get?_insert

theorem exchange_eq (m : OrderedMap α) (key : String) (value : α) :
    m.exchange key value = (m.get? key, m.insert key value) := by
  unfold exchange get? insert
  simp only [Entries.exchange_eq]

end OrderedMap

end FormRules
