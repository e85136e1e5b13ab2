import Mathlib.Data.List.Forall2
import FormRules.Proofs.Json.Numerals

/-!
# Reading back arrays and objects

A container's text is its parts with commas between them and any white space
around them.  What is written has the same gap before each part, so that the same
rules serve compact and indented texts.
-/

namespace FormRules.Json.Decode

variable {α : Type}

/-! ## Texts of values and containers -/

/-- A step reads the text of a value behind any gap, whatever may follow a value. -/
def ReadsValue (step : Decode α) (text : List Char) (a : α) : Prop :=
  ∀ gap rest, Blank gap → EndsValue rest → Reads step (gap ++ (text ++ rest)) a rest

theorem ReadsValue.map {β : Type} {step : Decode α} {text : List Char} {a : α} (f : α → β)
    (h : ReadsValue step text a) : ReadsValue (f <$> step) text (f a) := by
  intro gap rest hg he
  exact (h gap rest hg he).map f

/-- A value is what the run on its text gives, also where something follows the value. -/
theorem ReadsValue.run {step : Decode α} {text : List Char} {a : α}
    (h : ReadsValue step text a) {rest : List Char} (he : EndsValue rest) :
    step.run (text ++ rest) = .ok a :=
  Reads.run (h [] rest blank_nil he)

def Opens (text : List Char) : Prop :=
  ∃ c cs, text = c :: cs ∧ isSpace c = false ∧ c ≠ ']'

def following (gap : List Char) (parts : List (List Char)) : List Char :=
  parts.flatMap fun t => ',' :: (gap ++ t)

def listed (gap : List Char) : List (List Char) → List Char
  | [] => []
  | t :: parts => gap ++ (t ++ following gap parts)

def arrayText (gap close : List Char) (items : List (List Char)) : List Char :=
  '[' :: (listed gap items ++ (close ++ [']']))

def memberText (mid : List Char) (m : String × List Char) : List Char :=
  Quoted.encode m.1.toList ++ ':' :: (mid ++ m.2)

def objectText (gap close mid : List Char) (members : List (String × List Char)) : List Char :=
  '{' :: (listed gap (members.map (memberText mid)) ++ (close ++ ['}']))

theorem following_cons (gap t : List Char) (parts : List (List Char)) :
    following gap (t :: parts) = ',' :: (gap ++ (t ++ following gap parts)) := by
  simp only [following, List.flatMap_cons, List.cons_append, List.append_assoc]

theorem arrayText_append (gap close : List Char) (items : List (List Char)) (rest : List Char) :
    arrayText gap close items ++ rest = '[' :: (listed gap items ++ (close ++ ']' :: rest)) := by
  simp [arrayText]

theorem objectText_append (gap close mid : List Char) (members : List (String × List Char))
    (rest : List Char) :
    objectText gap close mid members ++ rest =
      '{' :: (listed gap (members.map (memberText mid)) ++ (close ++ '}' :: rest)) := by
  simp [objectText]

/-! ## Parts of a container -/

/-- What follows a part of a container up to the closing bracket: further parts, each behind a comma
and with any white space around it. -/
inductive MoreParts (part : List Char → α → Prop) : List Char → List α → Prop where
  | nil {gap : List Char} (hg : Blank gap) : MoreParts part gap []
  | cons {before gap t tail : List Char} {a : α} {as : List α} (hb : Blank before)
      (hg : Blank gap) (head : part t a) (more : MoreParts part tail as) :
      MoreParts part (before ++ ',' :: (gap ++ (t ++ tail))) (a :: as)

inductive Parts (part : List Char → α → Prop) : List Char → List α → Prop where
  | nil {gap : List Char} (hg : Blank gap) : Parts part gap []
  | cons {gap t tail : List Char} {a : α} {as : List α} (hg : Blank gap) (head : part t a)
      (more : MoreParts part tail as) : Parts part (gap ++ (t ++ tail)) (a :: as)

variable {part : List Char → α → Prop} {text : List Char} {as : List α}

theorem MoreParts.imp {other : List Char → α → Prop} (hp : ∀ t a, part t a → other t a)
    (h : MoreParts part text as) : MoreParts other text as := by
  induction h with
  | nil hg => exact .nil hg
  | cons hb hg head _ ih => exact .cons hb hg (hp _ _ head) ih

theorem Parts.imp {other : List Char → α → Prop} (hp : ∀ t a, part t a → other t a)
    (h : Parts part text as) : Parts other text as := by
  cases h with
  | nil hg => exact .nil hg
  | cons hg head more => exact .cons hg (hp _ _ head) (more.imp hp)

theorem Parts.more {gap : List Char} {a : α} (h : Parts part text (a :: as)) (hg : Blank gap) :
    MoreParts part (gap ++ ',' :: text) (a :: as) := by
  cases h with
  | cons hg' head more => exact .cons hg hg' head more

/-- Every further part has a comma of its own. -/
theorem MoreParts.length_le (h : MoreParts part text as) : as.length ≤ text.length := by
  induction h with
  | nil hg => simp
  | cons hb hg head more ih =>
      simp only [List.length_append, List.length_cons]
      omega

/-- White space and a bracket end a value, and so does a comma. -/
theorem endsValue_append {gap : List Char} (hg : Blank gap) {c : Char}
    (hc : c = ',' ∨ c = ']' ∨ c = '}') (rest : List Char) : EndsValue (gap ++ c :: rest) := by
  intro d hd
  cases gap with
  | nil =>
      cases hd
      exact .inr hc
  | cons g gap =>
      cases hd
      exact .inl (hg d List.mem_cons_self)

theorem MoreParts.endsValue (h : MoreParts part text as) {c : Char} (hc : c = ']' ∨ c = '}')
    (rest : List Char) : EndsValue (text ++ c :: rest) := by
  cases h with
  | nil hg => exact endsValue_append hg (.inr hc) rest
  | cons hb hg head more =>
      rw [List.append_assoc]
      exact endsValue_append hb (.inl rfl) _

theorem moreParts_following {gap close : List Char} (hg : Blank gap) (hc : Blank close)
    {parts : List (List Char)} (h : List.Forall₂ part parts as) :
    MoreParts part (following gap parts ++ close) as := by
  induction h with
  | nil => exact .nil hc
  | cons head _ ih =>
      rw [following_cons, List.cons_append, List.append_assoc, List.append_assoc]
      exact .cons blank_nil hg head ih

/-- Parts with the same gap before each of them. -/
theorem parts_listed {gap close : List Char} (hg : Blank gap) (hc : Blank close)
    {parts : List (List Char)} (h : List.Forall₂ part parts as) :
    Parts part (listed gap parts ++ close) as := by
  cases h with
  | nil => exact .nil hc
  | cons head more =>
      rw [listed, List.append_assoc, List.append_assoc]
      exact .cons hg head (moreParts_following hg hc more)

/-! ## Items -/

theorem reads_nextItem_first {gap t tail : List Char} (hg : Blank gap) (ht : Opens t) :
    Reads (nextItem true) (gap ++ (t ++ tail)) true (t ++ tail) := by
  obtain ⟨c, cs, rfl, hs, hb⟩ := ht
  unfold nextItem
  apply Reads.token hg hs
  simp only [if_true]
  rw [if_neg hb]
  exact Reads.pure true _

theorem reads_nextItem_later {before gap t tail : List Char} (hb : Blank before) (hg : Blank gap)
    (ht : Opens t) :
    Reads (nextItem false) (before ++ ',' :: (gap ++ (t ++ tail))) true (t ++ tail) := by
  obtain ⟨c, cs, rfl, hs, hn⟩ := ht
  unfold nextItem
  apply Reads.token hb (by decide)
  simp only
  rw [if_neg (by decide), if_neg (by decide), if_pos trivial]
  apply Reads.advance
  apply Reads.token hg hs
  simp only
  rw [if_neg hn]
  exact Reads.pure true _

theorem reads_nextItem_none (first : Bool) {close : List Char} (hc : Blank close)
    (rest : List Char) :
    Reads (nextItem first) (close ++ ']' :: rest) false (']' :: rest) := by
  unfold nextItem
  apply Reads.token hc (by decide)
  simp only [if_true]
  exact Reads.pure false _

theorem reads_item {item : Nat → Decode α} {fuel index : Nat} {cs t tail rest : List Char} {a : α}
    {as : List α} (hn : Reads (nextItem (index = 0)) cs true (t ++ tail))
    (ha : ReadsValue (item index) t a) (he : EndsValue tail)
    (hr : Reads (items item fuel (index + 1)) tail as rest) :
    Reads (items item (fuel + 1) index) cs (a :: as) rest := by
  unfold items
  apply hn.bind
  simp only [if_true]
  apply ((ha [] tail blank_nil he).within _).bind
  apply hr.bind
  exact Reads.pure (a :: as) rest

theorem reads_items_end {item : Nat → Decode α} {fuel index : Nat} {close : List Char}
    (hc : Blank close) (rest : List Char) :
    Reads (items item (fuel + 1) index) (close ++ ']' :: rest) [] (']' :: rest) := by
  unfold items
  apply (reads_nextItem_none _ hc rest).bind
  simp only [Bool.false_eq_true, if_false]
  exact Reads.pure [] _

/-- A text opens an item, which is read from it at any index. -/
def ReadsItem (item : Nat → Decode α) (t : List Char) (a : α) : Prop :=
  Opens t ∧ ∀ i, ReadsValue (item i) t a

theorem reads_moreItems {item : Nat → Decode α} (h : MoreParts (ReadsItem item) text as)
    (rest : List Char) {fuel index : Nat} (hf : as.length < fuel) (hi : index ≠ 0) :
    Reads (items item fuel index) (text ++ ']' :: rest) as (']' :: rest) := by
  induction h generalizing fuel index with
  | nil hg =>
      obtain ⟨fuel, rfl⟩ : ∃ n, fuel = n + 1 := ⟨fuel - 1, by simp at hf; omega⟩
      exact reads_items_end hg rest
  | cons hb hg head more ih =>
      obtain ⟨fuel, rfl⟩ : ∃ n, fuel = n + 1 := ⟨fuel - 1, by simp at hf; omega⟩
      have hl := Nat.lt_of_succ_lt_succ hf
      simp only [List.cons_append, List.append_assoc]
      apply reads_item _ (head.2 index) (more.endsValue (Or.inl rfl) rest)
        (ih hl (Nat.succ_ne_zero index))
      rw [decide_eq_false hi]
      exact reads_nextItem_later hb hg head.1

theorem reads_allItems_of_parts {item : Nat → Decode α} (h : Parts (ReadsItem item) text as)
    (rest : List Char) : Reads (allItems item) (text ++ ']' :: rest) as (']' :: rest) := by
  unfold allItems
  apply (reads_remaining _).bind
  cases h with
  | nil hg => exact reads_items_end hg rest
  | cons hg head more =>
      -- The fuel counts characters, and every further item has a comma of its own.
      have hl := more.length_le
      simp only [List.append_assoc]
      apply reads_item _ (head.2 0) (more.endsValue (Or.inl rfl) rest)
        (reads_moreItems more rest _ (Nat.succ_ne_zero 0))
      · exact reads_nextItem_first hg head.1
      · simp only [List.length_append, List.length_cons]
        omega

theorem reads_allItems {item : Nat → Decode α} {gap close : List Char} (hg : Blank gap)
    (hc : Blank close) (rest : List Char) {parts : List (List Char)}
    (h : List.Forall₂ (ReadsItem item) parts as) :
    Reads (allItems item) (listed gap parts ++ (close ++ ']' :: rest)) as (']' :: rest) := by
  rw [← List.append_assoc]
  exact reads_allItems_of_parts (parts_listed hg hc h) rest

theorem reads_closeArray {gap : List Char} (hg : Blank gap) (rest : List Char) :
    Reads closeArray (gap ++ ']' :: rest) () rest := by
  unfold closeArray
  apply Reads.token hg (by decide)
  simp only [if_true]
  exact reads_advance ']' rest

/-- An array is read if a level is left and the step for its items stops at the bracket. -/
theorem reads_inArray {depth : Nat} (hd : depth ≠ 0) {body : Decode α} {cs rest : List Char}
    {a : α} (h : Reads body cs a (']' :: rest)) :
    Reads (inArray depth body) ('[' :: cs) a rest := by
  unfold inArray
  rw [if_neg hd]
  apply Reads.advance
  exact h.closing (reads_closeArray blank_nil rest)

/-! ## Members -/

def ReadsMember (member : String → Decode α) (m : String × List Char) (b : String × α) : Prop :=
  b.1 = m.1 ∧ ReadsValue (member m.1) m.2 b.2

def ReadsPart (member : String → Decode α) (t : List Char) (b : String × α) : Prop :=
  ∃ key before mid v, t = '"' :: (key ++ (before ++ ':' :: (mid ++ v))) ∧ Blank before ∧
    Blank mid ∧ (∀ rest, Reads stringBody (key ++ rest) b.1 rest) ∧ ReadsValue (member b.1) v b.2

theorem ReadsMember.readsPart {member : String → Decode α} {m : String × List Char}
    {b : String × α} (h : ReadsMember member m b) {mid : List Char} (hm : Blank mid) :
    ReadsPart member (memberText mid m) b := by
  obtain ⟨key, t⟩ := m
  obtain ⟨rfl, hv⟩ := h
  exact ⟨_, [], mid, t, rfl, blank_nil, hm, reads_stringBody b.1, hv⟩

theorem reads_nextMember_first {gap tail : List Char} (hg : Blank gap) :
    Reads (nextMember true) (gap ++ '"' :: tail) true ('"' :: tail) := by
  unfold nextMember
  apply Reads.token hg (by decide)
  simp only [if_true]
  rw [if_neg (by decide)]
  exact Reads.pure true _

theorem reads_nextMember_later {before gap tail : List Char} (hb : Blank before)
    (hg : Blank gap) :
    Reads (nextMember false) (before ++ ',' :: (gap ++ '"' :: tail)) true ('"' :: tail) := by
  unfold nextMember
  apply Reads.token hb (by decide)
  simp only
  rw [if_neg (by decide), if_neg (by decide), if_pos trivial]
  apply Reads.advance
  apply Reads.token hg (by decide)
  simp only [if_true]
  exact Reads.pure true _

theorem reads_nextMember_none (first : Bool) {close : List Char} (hc : Blank close)
    (rest : List Char) :
    Reads (nextMember first) (close ++ '}' :: rest) false ('}' :: rest) := by
  unfold nextMember
  apply Reads.token hc (by decide)
  simp only [if_true]
  exact Reads.pure false _

theorem reads_nextKey {first : Bool} {cs tail : List Char} {key : String}
    (h : Reads (nextMember first) cs true ('"' :: tail)) {rest : List Char}
    (hk : Reads stringBody tail key rest) : Reads (nextKey first) cs (some key) rest := by
  unfold nextKey
  apply Reads.within
  apply h.bind
  simp only [if_true]
  apply Reads.advance
  apply hk.bind
  exact Reads.pure (some key) rest

theorem reads_colon {before : List Char} (hb : Blank before) (cs : List Char) :
    Reads colon (before ++ ':' :: cs) () cs := by
  unfold colon
  apply Reads.token hb (by decide)
  simp only [if_true]
  exact reads_advance ':' cs

variable {refuse : List String → String → Option Fault} {member : String → Decode α}
  {b : String × α} {bs : List (String × α)}

theorem reads_member {fuel : Nat} {seen : List String} {cs t tail rest : List Char}
    (hn : ∀ more, t ++ tail = '"' :: more → Reads (nextMember seen.isEmpty) cs true ('"' :: more))
    (hr : refuse seen b.1 = none) (ht : ReadsPart member t b) (he : EndsValue tail)
    (hs : Reads (members refuse member fuel (b.1 :: seen)) tail bs rest) :
    Reads (members refuse member (fuel + 1) seen) cs (b :: bs) rest := by
  obtain ⟨key, before, mid, v, rfl, hb, hm, hk, hv⟩ := ht
  simp only [List.append_assoc, List.cons_append] at hn
  unfold members
  apply (reads_nextKey (hn _ rfl) (hk _)).bind
  simp only [hr]
  apply (reads_colon hb _).bind
  apply ((hv mid tail hm he).within _).bind
  apply hs.bind
  exact Reads.pure (b :: bs) rest

theorem reads_members_end {fuel : Nat} {seen : List String} {close : List Char}
    (hc : Blank close) (rest : List Char) :
    Reads (members refuse member (fuel + 1) seen) (close ++ '}' :: rest) [] ('}' :: rest) := by
  have hk : Reads (nextKey seen.isEmpty) (close ++ '}' :: rest) none ('}' :: rest) := by
    unfold nextKey
    apply Reads.within
    apply (reads_nextMember_none _ hc rest).bind
    simp only [Bool.false_eq_true, if_false]
    exact Reads.pure none _
  unfold members
  apply hk.bind
  exact Reads.pure [] _

/-- No key is refused by those that stand before it. -/
def Welcome (refuse : List String → String → Option Fault) : List String → List String → Prop
  | _, [] => True
  | seen, key :: keys => refuse seen key = none ∧ Welcome refuse (key :: seen) keys

theorem welcome_of_nodup (hr : ∀ seen key, key ∉ seen → refuse seen key = none)
    {seen keys : List String} (hn : keys.Nodup) (hd : ∀ key ∈ keys, key ∉ seen) :
    Welcome refuse seen keys := by
  induction keys generalizing seen with
  | nil => trivial
  | cons key keys ih =>
      have hkeys := List.nodup_cons.mp hn
      refine ⟨hr seen key (hd key List.mem_cons_self), ih hkeys.2 ?_⟩
      intro k hk hmem
      rcases List.mem_cons.mp hmem with rfl | hmem
      · exact hkeys.1 hk
      · exact hd k (List.mem_cons_of_mem _ hk) hmem

theorem reads_moreMembers (h : MoreParts (ReadsPart member) text bs) (rest : List Char)
    {fuel : Nat} {seen : List String} (hw : Welcome refuse seen (Entries.keys bs))
    (hf : bs.length < fuel) (hseen : seen ≠ []) :
    Reads (members refuse member fuel seen) (text ++ '}' :: rest) bs ('}' :: rest) := by
  induction h generalizing fuel seen with
  | nil hg =>
      obtain ⟨fuel, rfl⟩ : ∃ n, fuel = n + 1 := ⟨fuel - 1, by simp at hf; omega⟩
      exact reads_members_end hg rest
  | cons hb hg head more ih =>
      obtain ⟨fuel, rfl⟩ : ∃ n, fuel = n + 1 := ⟨fuel - 1, by simp at hf; omega⟩
      have hl := Nat.lt_of_succ_lt_succ hf
      have hfirst : seen.isEmpty = false := by
        cases seen with
        | nil => exact absurd rfl hseen
        | cons k seen => rfl
      simp only [List.cons_append, List.append_assoc]
      apply reads_member _ hw.1 head (more.endsValue (Or.inr rfl) rest)
        (ih hw.2 hl (List.cons_ne_nil _ _))
      intro tail ht
      rw [hfirst, ht]
      exact reads_nextMember_later hb hg

theorem reads_allMembers_of_parts (h : Parts (ReadsPart member) text bs) (rest : List Char)
    (hw : Welcome refuse [] (Entries.keys bs)) :
    Reads (allMembers refuse member) (text ++ '}' :: rest) bs ('}' :: rest) := by
  unfold allMembers
  apply (reads_remaining _).bind
  cases h with
  | nil hg => exact reads_members_end hg rest
  | cons hg head more =>
      have hl := more.length_le
      simp only [List.append_assoc]
      apply reads_member _ hw.1 head (more.endsValue (Or.inr rfl) rest)
        (reads_moreMembers more rest hw.2 _ (List.cons_ne_nil _ []))
      · intro tail ht
        rw [ht]
        exact reads_nextMember_first hg
      · simp only [List.length_append, List.length_cons]
        omega

theorem reads_allMembers (hr : ∀ seen key, key ∉ seen → refuse seen key = none)
    {gap close mid : List Char} (hg : Blank gap) (hc : Blank close) (hm : Blank mid)
    (rest : List Char) {ms : List (String × List Char)}
    (h : List.Forall₂ (ReadsMember member) ms bs) (hn : (Entries.keys ms).Nodup) :
    Reads (allMembers refuse member)
      (listed gap (ms.map (memberText mid)) ++ (close ++ '}' :: rest)) bs ('}' :: rest) := by
  have hparts : List.Forall₂ (ReadsPart member) (ms.map (memberText mid)) bs := by
    rw [List.forall₂_map_left_iff]
    exact h.imp fun _ _ hb => hb.readsPart hm
  have hkeys : Entries.keys bs = Entries.keys ms := by
    have hsame := List.forall₂_map_left_iff.2 (List.forall₂_map_right_iff.2
      (h.imp fun _ _ hb => hb.1.symm))
    rw [List.forall₂_eq_eq_eq] at hsame
    exact hsame.symm
  rw [← List.append_assoc]
  apply reads_allMembers_of_parts (parts_listed hg hc hparts) rest
  rw [hkeys]
  exact welcome_of_nodup hr hn fun _ _ => List.not_mem_nil

theorem reads_closeObject {gap : List Char} (hg : Blank gap) (rest : List Char) :
    Reads closeObject (gap ++ '}' :: rest) () rest := by
  unfold closeObject
  apply Reads.token hg (by decide)
  simp only [if_true]
  exact reads_advance '}' rest

theorem reads_inObject {depth : Nat} (hd : depth ≠ 0) {body : Decode α} {cs rest : List Char}
    {a : α} (h : Reads body cs a ('}' :: rest)) :
    Reads (inObject depth body) ('{' :: cs) a rest := by
  unfold inObject
  rw [if_neg hd]
  apply Reads.advance
  exact h.closing (reads_closeObject blank_nil rest)

end FormRules.Json.Decode
