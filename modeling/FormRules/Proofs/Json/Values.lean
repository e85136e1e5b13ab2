import FormRules.Proofs.OrderedMap
import FormRules.Proofs.Json.Texts

/-!
# Reading back values

The compact and the indented texts differ in the white space between the parts
only.  A value is read back from either, if no object in it has a key twice, it
holds no floating-point number and it does not nest more deeply than the reader
allows.
-/

namespace FormRules.Json

open Decode

/-! ## Ways of writing values -/

def memberTexts (write : Nat → Json → List Char) (level : Nat) (members : List (String × Json)) :
    List (String × List Char) :=
  members.map fun m => (m.1, write level m.2)

/-- A way of writing values at a level: the parts of a container lie one level further in,
and only white space stands around them. -/
structure Layout (write : Nat → Json → List Char) : Prop where
  null : ∀ level, write level .null = compact .null
  bool : ∀ level b, write level (.bool b) = compact (.bool b)
  number : ∀ level n, write level (.number n) = n.text
  string : ∀ level s, write level (.string s) = Quoted.encode s.toList
  array : ∀ level items, ∃ gap close, Blank gap ∧ Blank close ∧
    write level (.array items) = arrayText gap close (items.map (write (level + 1)))
  object : ∀ level members, ∃ gap close mid, Blank gap ∧ Blank close ∧ Blank mid ∧
    write level (.object members) =
      objectText gap close mid (memberTexts write (level + 1) members)

theorem compactItems_eq (items : List Json) :
    compactItems items = listed [] (items.map compact) ++ [']'] := by
  cases items with
  | nil => simp [compactItems, listed]
  | cons x rest =>
      induction rest generalizing x with
      | nil => simp [compactItems, listed, following]
      | cons y rest ih =>
          rw [compactItems, ih y]
          simp [listed, following_cons]

theorem compactMembers_eq (members : List (String × Json)) :
    compactMembers members =
      listed [] (members.map fun m => memberText [] (m.1, compact m.2)) ++ ['}'] := by
  cases members with
  | nil => simp [compactMembers, listed]
  | cons m rest =>
      induction rest generalizing m with
      | nil => simp [compactMembers, listed, following, memberText]
      | cons y rest ih =>
          obtain ⟨key, x⟩ := m
          rw [compactMembers, ih y]
          simp [listed, following_cons, memberText]

theorem indentedItems_eq (level : Nat) (items : List Json) :
    indentedItems level items = listed (newline level) (items.map (indented level)) := by
  cases items with
  | nil => simp [indentedItems, listed]
  | cons x rest =>
      induction rest generalizing x with
      | nil => simp [indentedItems, listed, following]
      | cons y rest ih =>
          rw [indentedItems, ih y]
          simp [listed, following_cons]

theorem indentedMembers_eq (level : Nat) (members : List (String × Json)) :
    indentedMembers level members =
      listed (newline level) (members.map fun m => memberText [' '] (m.1, indented level m.2)) := by
  cases members with
  | nil => simp [indentedMembers, listed]
  | cons m rest =>
      induction rest generalizing m with
      | nil => simp [indentedMembers, listed, following, memberText]
      | cons y rest ih =>
          obtain ⟨key, x⟩ := m
          rw [indentedMembers, ih y]
          simp [listed, following_cons, memberText]

theorem blank_newline (level : Nat) : Blank (newline level) := by
  intro c hc
  unfold newline at hc
  rcases List.mem_cons.mp hc with rfl | hc
  · decide
  · rw [List.eq_of_mem_replicate hc]
    decide

theorem layout_compact : Layout fun _ => compact where
  null := fun _ => rfl
  bool := fun _ _ => rfl
  number := fun _ _ => by rw [compact]
  string := fun _ _ => by rw [compact]
  array := by
    intro level items
    refine ⟨[], [], blank_nil, blank_nil, ?_⟩
    rw [compact, compactItems_eq]
    rfl
  object := by
    intro level members
    refine ⟨[], [], [], blank_nil, blank_nil, blank_nil, ?_⟩
    rw [compact, compactMembers_eq]
    simp [objectText, memberTexts, Function.comp_def]

theorem layout_indented : Layout indented where
  null := fun _ => by rw [indented]
  bool := fun _ _ => by rw [indented]
  number := fun _ _ => by rw [indented, compact]
  string := fun _ _ => by rw [indented, compact]
  array := by
    intro level items
    cases items with
    | nil =>
        refine ⟨[], [], blank_nil, blank_nil, ?_⟩
        rw [indented]
        rfl
    | cons x rest =>
        refine ⟨newline (level + 1), newline level, blank_newline _, blank_newline _, ?_⟩
        rw [indented, indentedItems_eq]
        simp [arrayText]
  object := by
    intro level members
    cases members with
    | nil =>
        refine ⟨[], [], [], blank_nil, blank_nil, blank_nil, ?_⟩
        rw [indented]
        rfl
    | cons m rest =>
        refine ⟨newline (level + 1), newline level, [' '], blank_newline _, blank_newline _, ?_, ?_⟩
        · intro c hc
          rw [List.mem_singleton.mp hc]
          decide
        · rw [indented, indentedMembers_eq]
          simp [objectText, memberTexts, Function.comp_def]

/-! ## Values that can be read back -/

/-- A value nests at most so many levels deep, without floating-point numbers and without
repeated keys. -/
def Plain : Nat → Json → Prop
  | _, .null => True
  | _, .bool _ => True
  | _, .number n => ∃ i h, n = .int i h
  | _, .string _ => True
  | 0, .array _ => False
  | 0, .object _ => False
  | depth + 1, .array items => ∀ v ∈ items, Plain depth v
  | depth + 1, .object members =>
    (Entries.keys members).Nodup ∧ ∀ m ∈ members, Plain depth m.2

variable {write : Nat → Json → List Char}

theorem Layout.opens_object (hw : Layout write) (level : Nat) (members : List (String × Json)) :
    Opens (write level (.object members)) := by
  obtain ⟨gap, close, mid, _, _, _, h⟩ := hw.object level members
  rw [h]
  exact ⟨'{', _, rfl, by decide, by decide⟩

/-- What is written of a value that is neither an array nor an object. -/
theorem Layout.scalarText (hw : Layout write) {depth level : Nat} {v : Json} (hv : Plain depth v)
    (ha : ∀ items, v ≠ .array items) (ho : ∀ members, v ≠ .object members) :
    ScalarText (write level v) v := by
  cases v with
  | null =>
      rw [hw.null]
      exact .null
  | bool b =>
      rw [hw.bool]
      cases b with
      | true => exact .bool true
      | false => exact .bool false
  | number n =>
      obtain ⟨i, h, rfl⟩ : ∃ i h, n = .int i h := by
        cases depth <;> exact hv
      have hi : Number.text (.int i h) = Decimal.integer i := rfl
      rw [hw.number, hi, ← text_integerNumeral]
      exact .number (number?_integerNumeral h)
  | string s =>
      obtain ⟨t, ht, hc⟩ := characters_body s.toList
      have hs := ScalarText.string hc
      rw [String.ofList_toList] at hs
      rw [hw.string, Quoted.encode, ht]
      exact hs
  | array items => exact absurd rfl (ha items)
  | object members => exact absurd rfl (ho members)

theorem entryText_memberText {inner : List Char → Json → Prop} {mid t : List Char}
    (hm : Blank mid) {key : String} {v : Json} (hv : inner t v) :
    EntryText inner (memberText mid (key, t)) (key, v) := by
  obtain ⟨k, hk, hc⟩ := characters_body key.toList
  have he := EntryText.mk hc blank_nil hm hv
  rw [String.ofList_toList] at he
  rw [memberText, Quoted.encode, hk]
  simpa using he

/-- What is written of a value is a text of it. -/
theorem Layout.valueText (hw : Layout write) {depth : Nat} {v : Json} (hv : Plain depth v)
    (level : Nat) : ValueText depth (write level v) v := by
  induction depth generalizing level v with
  | zero =>
      cases v with
      | array items => exact hv.elim
      | object members => exact hv.elim
      | _ => exact hw.scalarText hv (by simp) (by simp)
  | succ depth ih =>
      cases v with
      | array items =>
          obtain ⟨gap, close, hg, hc, ht⟩ := hw.array level items
          have hitems : List.Forall₂ (ValueText depth) (items.map (write (level + 1))) items := by
            rw [List.forall₂_map_left_iff, List.forall₂_same]
            exact fun x hx => ih (hv x hx) (level + 1)
          have h := NestedText.array (parts_listed hg hc hitems)
          rw [ht, arrayText, ← List.append_assoc]
          exact h
      | object members =>
          obtain ⟨gap, close, mid, hg, hc, hm, ht⟩ := hw.object level members
          have hmembers : List.Forall₂ (EntryText (ValueText depth))
              ((memberTexts write (level + 1) members).map (memberText mid)) members := by
            rw [memberTexts, List.map_map, List.forall₂_map_left_iff, List.forall₂_same]
            exact fun m hmem => entryText_memberText hm (ih (hv.2 m hmem) (level + 1))
          have h := NestedText.object (parts_listed hg hc hmembers)
          rw [Entries.ofList_of_nodup hv.1] at h
          rw [ht, objectText, ← List.append_assoc]
          exact h
      | _ => exact .scalar (hw.scalarText hv (by simp) (by simp))

/-! ## Scalars -/

theorem readsValue_expecting {α : Type} {wanted : String} {choose : Char → Option (Decode α)}
    {step : Decode α} {c : Char} {cs : List Char} {a : α} (hs : isSpace c = false)
    (hc : choose c = some step)
    (h : ∀ rest, EndsValue rest → Reads step (c :: (cs ++ rest)) a rest) :
    ReadsValue (expecting wanted choose) (c :: cs) a := by
  intro gap rest hg he
  unfold expecting
  apply Reads.placed
  apply Reads.token hg hs
  simp only [hc]
  exact h rest he

theorem readsValue_string (wanted s : String) :
    ReadsValue (Decode.string wanted) (Quoted.encode s.toList) s := by
  apply readsValue_expecting (by decide) (if_pos rfl)
  intro rest _
  apply Reads.advance
  exact reads_stringBody s rest

theorem readsValue_bool (b : Bool) : ReadsValue Decode.bool (compact (.bool b)) b := by
  cases b with
  | true =>
      apply readsValue_expecting (by decide) (if_pos rfl)
      intro rest _
      apply Reads.advance
      apply (reads_word ['r', 'u', 'e'] rest).bind
      exact Reads.pure true rest
  | false =>
      apply readsValue_expecting (by decide) ((if_neg (by decide)).trans (if_pos rfl))
      intro rest _
      apply Reads.advance
      apply (reads_word ['a', 'l', 's', 'e'] rest).bind
      exact Reads.pure false rest

/-! ## Any value -/

/-- A value is read back from its text if the reader allows one level more than it has. -/
theorem readsValue_value (hw : Layout write) {depth levels level : Nat} {v : Json}
    (hv : Plain depth v) (hd : depth < levels) : ReadsValue (value levels) (write level v) v :=
  (hw.valueText hv level).readsValue hd

/-- A value is read back from the texts that are written of it. -/
theorem ofText_text {depth : Nat} {v : Json} (hv : Plain depth v) (hd : depth < depthLimit) :
    ofText v.text = .ok v ∧ ofText v.prettyText = .ok v := by
  have hread : ∀ {write : Nat → Json → List Char}, Layout write →
      (value depthLimit).run (write 0 v) = .ok v := by
    intro write hw
    have h := (readsValue_value hw hv hd : ReadsValue _ (write 0 v) v).run endsValue_nil
    rw [List.append_nil] at h
    exact h
  unfold ofText text prettyText
  rw [String.toList_ofList, String.toList_ofList]
  exact ⟨hread layout_compact, hread layout_indented⟩

/-! ## Values of a wanted shape -/

variable {α : Type} {wanted : String} {choose : Char → Option (Decode α)} {body : Decode α}
  {levels level : Nat}

theorem readsValue_expecting_array (hw : Layout write) {items : List Json} {a : α}
    (hc : choose '[' = some (inArray levels body)) (hl : levels ≠ 0)
    (h : ∀ gap close rest, Blank gap → Blank close →
      Reads body (listed gap (items.map (write (level + 1))) ++ (close ++ ']' :: rest)) a
        (']' :: rest)) :
    ReadsValue (expecting wanted choose) (write level (.array items)) a := by
  obtain ⟨gap, close, hg, hcl, ht⟩ := hw.array level items
  rw [ht]
  apply readsValue_expecting (by decide) hc
  intro rest _
  have hr := reads_inArray hl (h gap close rest hg hcl)
  rw [← arrayText_append] at hr
  exact hr

theorem readsValue_expecting_object (hw : Layout write) {members : List (String × Json)} {a : α}
    (hc : choose '{' = some (inObject levels body)) (hl : levels ≠ 0)
    (h : ∀ gap close mid rest, Blank gap → Blank close → Blank mid →
      Reads body
        (listed gap ((memberTexts write (level + 1) members).map (memberText mid)) ++
          (close ++ '}' :: rest)) a ('}' :: rest)) :
    ReadsValue (expecting wanted choose) (write level (.object members)) a := by
  obtain ⟨gap, close, mid, hg, hcl, hm, ht⟩ := hw.object level members
  rw [ht]
  apply readsValue_expecting (by decide) hc
  intro rest _
  have hr := reads_inObject hl (h gap close mid rest hg hcl hm)
  rw [← objectText_append] at hr
  exact hr

theorem readsValue_list (hw : Layout write) {item : Nat → Decode α} {toJson : α → Json}
    {as : List α} (hl : 1 < levels)
    (h : ∀ a ∈ as, Opens (write (level + 1) (toJson a)) ∧
      ReadsValue (item (levels - 1)) (write (level + 1) (toJson a)) a) :
    ReadsValue (list item levels) (write level (.array (as.map toJson))) as := by
  apply readsValue_expecting_array hw (if_pos rfl) (by omega)
  intro gap close rest hg hc
  apply reads_allItems hg hc rest
  rw [List.map_map, List.forall₂_map_left_iff, List.forall₂_same]
  intro a ha
  exact ⟨(h a ha).1, fun _ => (h a ha).2⟩

theorem readsValue_map (hw : Layout write) {member : Nat → Decode α} {toJson : α → Json}
    {entries : List (String × α)} (hl : 1 < levels) (hn : (Entries.keys entries).Nodup)
    (h : ∀ e ∈ entries, ReadsValue (member (levels - 1)) (write (level + 1) (toJson e.2)) e.2) :
    ReadsValue (Decode.map member levels)
      (write level (.object (entries.map fun e => (e.1, toJson e.2)))) entries := by
  apply readsValue_expecting_object hw (if_pos rfl) (by omega)
  intro gap close mid rest hg hc hm
  apply reads_allMembers (fun _ _ _ => rfl) hg hc hm rest
  · rw [memberTexts, List.map_map, List.forall₂_map_left_iff, List.forall₂_same]
    intro e he
    exact ⟨rfl, h e he⟩
  · rw [memberTexts, Entries.keys_map, Entries.keys_map]
    exact hn

end FormRules.Json
