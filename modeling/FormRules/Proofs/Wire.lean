import FormRules.Field.Wire
import FormRules.Proofs.Json.Values

/-!
# Reading back the wire form of rules

Writer and reader of the wire form agree member by member: every kind of
constraint is rebuilt from the members that it writes, and what a field rule
leaves out is what its reader adds.
-/

namespace FormRules

open Json Json.Decode

variable {write : Nat → Json → List Char}

/-- A key that has not been read is never refused. -/
theorem Json.Decode.onceEach_of_not_mem (known : List String) {seen : List String} {key : String}
    (h : key ∉ seen) : onceEach known seen key = none := by
  unfold onceEach
  rw [if_neg]
  simp [h]

/-- An object is read back if its members are read as some parts and the value is put together
from these. -/
theorem Json.Decode.readsValue_members {α β : Type} (hw : Layout write) {wanted : String}
    {choose : Char → Option (Decode α)} {levels level : Nat} {known : List String}
    {member : String → Decode β} {finish : List (String × β) → Decode α}
    {members : List (String × Json)} {parts : List (String × β)} {a : α}
    (hc : choose '{' = some (inObject levels (allMembers (onceEach known) member >>= finish)))
    (hl : levels ≠ 0) (hn : (Entries.keys members).Nodup)
    (hp : List.Forall₂ (ReadsMember member) (memberTexts write (level + 1) members) parts)
    (hf : finish parts = pure a) :
    ReadsValue (expecting wanted choose) (write level (.object members)) a := by
  apply readsValue_expecting_object hw hc hl
  intro gap close mid rest hg hcl hm
  have hkeys : (Entries.keys (memberTexts write (level + 1) members)).Nodup := by
    rw [memberTexts, Entries.keys_map]
    exact hn
  apply (reads_allMembers (fun _ _ h => onceEach_of_not_mem known h) hg hcl hm rest hp hkeys).bind
  rw [hf]
  exact Reads.pure a _

/-! ## Names -/

theorem Json.Decode.readsValue_oneOfNames {α : Type} {find : String → Option α} {name : String}
    {a : α} (h : find name = some a) (known : List String) (wanted : String) :
    ReadsValue (oneOfNames find known wanted) (Quoted.encode name.toList) a := by
  intro gap rest hg he
  unfold oneOfNames
  apply Reads.placed
  apply (readsValue_string wanted name gap rest hg he).bind
  simp only [h]
  exact Reads.pure a rest

theorem BaseType.readsValue_decode (b : BaseType) (levels : Nat) :
    ReadsValue (BaseType.decode levels) (Quoted.encode b.name.toList) b := by
  intro gap rest hg he
  have hn : ReadsValue BaseType.decodeName (Quoted.encode b.name.toList) b :=
    readsValue_oneOfNames (BaseType.ofName?_name b) _ _
  have hr := hn [] rest blank_nil he
  unfold BaseType.decode
  apply Reads.token hg (by decide)
  simp only [if_true]
  exact hr

/-! ## Constraints -/

namespace Constraint

theorem readInt64_ofInt64 (i : Int64) : readInt64 (.ofInt64 i) = .ok i := by
  have hlt := Int64.toInt_lt i
  simp only [Json.ofInt64, Number.ofInt64, readInt64]
  rw [if_pos (by omega), Int64.ofInt_toInt]

theorem readText_string (s : String) : readText (.string s) = .ok s := rfl

theorem readTexts_ofTexts (texts : List String) : readTexts (.ofTexts texts) = .ok texts := by
  simp only [Json.ofTexts, readTexts]
  induction texts with
  | nil => rfl
  | cons s texts ih =>
      rw [List.map_cons, List.mapM_cons, ih]
      rfl

theorem readOptionalText_ofOption (s : Option String) :
    readOptionalText (.ofOption s) = .ok s := by
  cases s <;> rfl

/-- What a constraint writes has the shape that its kind wants. -/
theorem firstFault?_members (c : Constraint) : firstFault? c.kind.shapes [] c.members = none := by
  cases c <;>
    simp [kind, Kind.shapes, members, firstFault?, Entries.get?, Shape.fault?, readInt64_ofInt64,
      readText_string, readTexts_ofTexts, readOptionalText_ofOption]

/-- A constraint is rebuilt from its kind and its members. -/
theorem ofMembers_members (c : Constraint) : ofMembers c.kind c.members = .ok c := by
  unfold ofMembers
  rw [firstFault?_members]
  cases c <;>
    simp [kind, build, members, required, optional, Entries.get?, readInt64_ofInt64,
      readText_string, readTexts_ofTexts, readOptionalText_ofOption] <;> rfl

theorem plain_ofInt64 (i : Int64) : Plain 1 (.ofInt64 i) :=
  ⟨i.toInt, _, rfl⟩

theorem plain_ofTexts (texts : List String) : Plain 1 (.ofTexts texts) := by
  intro v hv
  obtain ⟨s, _, rfl⟩ := List.mem_map.mp hv
  trivial

theorem plain_ofOption (s : Option String) : Plain 1 (.ofOption s) := by
  cases s <;> trivial

theorem plain_members (c : Constraint) : ∀ m ∈ c.members, Plain 1 m.2 := by
  cases c <;> simp [members, plain_ofInt64, plain_ofTexts, plain_ofOption, Plain]

theorem nodup_keys_members (c : Constraint) :
    (Entries.keys (("type", .string c.kind.name) :: c.members)).Nodup := by
  cases c <;> simp [members, Entries.keys]

theorem others_members (k : Kind) (members : List (String × Json)) :
    others (("type", .kind k) :: members.map fun m => (m.1, .member m.2)) = members := by
  simp only [others, List.filterMap_cons, List.filterMap_map]
  exact List.filterMap_some

/-- The parts of a constraint's object are read back: its kind, then its members. -/
theorem reads_parts (hw : Layout write) {levels : Nat} (hl : 1 < levels) (level : Nat)
    (c : Constraint) :
    List.Forall₂ (ReadsMember fun key =>
        if key = "type" then Part.kind <$> Kind.decode else Part.member <$> value levels)
      (memberTexts write level (("type", .string c.kind.name) :: c.members))
      (("type", .kind c.kind) :: c.members.map fun m => (m.1, .member m.2)) := by
  apply List.Forall₂.cons
  · have hk : ReadsValue Kind.decode (Quoted.encode c.kind.name.toList) c.kind :=
      readsValue_oneOfNames (Kind.ofName?_name c.kind) _ _
    refine ⟨rfl, ?_⟩
    simp only [if_true, hw.string]
    exact hk.map Part.kind
  · rw [List.forall₂_map_left_iff, List.forall₂_map_right_iff, List.forall₂_same]
    intro m hm
    have hne : m.1 ≠ "type" := by
      intro h
      have hmem : m.1 ∈ Entries.keys c.members := List.mem_map_of_mem hm
      rw [h] at hmem
      exact (List.nodup_cons.mp c.nodup_keys_members).1 hmem
    refine ⟨rfl, ?_⟩
    simp only [if_neg hne]
    exact (readsValue_value hw (c.plain_members m hm) hl).map Part.member

theorem readsValue_decode (hw : Layout write) {levels : Nat} (hl : 2 < levels) (level : Nat)
    (c : Constraint) : ReadsValue (decode levels) (write level c.toJson) c := by
  have hkind : kind? (("type", .kind c.kind) :: c.members.map fun m => (m.1, .member m.2)) =
      some c.kind := rfl
  have hdraft : ReadsValue (decodeDraft levels) (write level c.toJson)
      (.ofMembers c.kind c.members) := by
    apply readsValue_members hw (if_pos rfl) (by omega) c.nodup_keys_members
      (c.reads_parts hw (by omega) (level + 1))
    simp only [hkind, others_members]
  intro gap rest hg he
  unfold decode
  apply (hdraft gap rest hg he).bind
  simp only [ofMembers_members]
  exact Reads.pure c rest

end Constraint

/-! ## Field rules -/

namespace FieldRule

def parts (rule : FieldRule) : List (String × Part) :=
  [("type", .base rule.base), ("required", .required rule.required)] ++
    (if rule.nullable then [("nullable", .nullable true)] else []) ++
    [("rules", .constraints rule.constraints)]

theorem nodup_keys_members (rule : FieldRule) : (Entries.keys rule.members).Nodup := by
  unfold members
  cases rule.nullable <;> simp [Entries.keys]

theorem reads_parts (hw : Layout write) {levels : Nat} (hl : 3 < levels) (level : Nat)
    (rule : FieldRule) :
    List.Forall₂ (ReadsMember (decodePart levels)) (memberTexts write level rule.members)
      rule.parts := by
  have hbase : ReadsValue (decodePart levels "type") (write level (.string rule.base.name))
      (.base rule.base) := by
    unfold decodePart
    rw [if_pos rfl, hw.string]
    exact (rule.base.readsValue_decode levels).map Part.base
  have hrequired : ReadsValue (decodePart levels "required") (write level (.bool rule.required))
      (.required rule.required) := by
    unfold decodePart
    rw [if_neg (by decide), if_pos rfl, hw.bool]
    exact (readsValue_bool rule.required).map Part.required
  have hnullable : ReadsValue (decodePart levels "nullable") (write level (.bool true))
      (.nullable true) := by
    unfold decodePart
    rw [if_neg (by decide), if_neg (by decide), if_pos rfl, hw.bool]
    exact (readsValue_bool true).map Part.nullable
  have hrules : ReadsValue (decodePart levels "rules")
      (write level (.array (rule.constraints.map Constraint.toJson)))
      (.constraints rule.constraints) := by
    unfold decodePart
    rw [if_neg (by decide), if_neg (by decide), if_neg (by decide), if_pos rfl]
    apply ReadsValue.map Part.constraints
    apply readsValue_list hw (by omega)
    intro c _
    exact ⟨hw.opens_object _ _, c.readsValue_decode hw (by omega) (level + 1)⟩
  unfold members parts
  cases rule.nullable with
  | false => exact .cons ⟨rfl, hbase⟩ (.cons ⟨rfl, hrequired⟩ (.cons ⟨rfl, hrules⟩ .nil))
  | true =>
      exact .cons ⟨rfl, hbase⟩
        (.cons ⟨rfl, hrequired⟩ (.cons ⟨rfl, hnullable⟩ (.cons ⟨rfl, hrules⟩ .nil)))

theorem readsValue_decode (hw : Layout write) {levels : Nat} (hl : 4 < levels) (level : Nat)
    (rule : FieldRule) : ReadsValue (decode levels) (write level rule.toJson) rule := by
  apply readsValue_members hw (if_pos rfl) (by omega) rule.nodup_keys_members
    (rule.reads_parts hw (by omega) (level + 1))
  obtain ⟨base, required, nullable, constraints⟩ := rule
  cases nullable <;> rfl

end FieldRule

/-! ## Rule sets -/

theorem RuleSet.readsValue_decode (hw : Layout write) {levels : Nat} (hl : 5 < levels)
    (level : Nat) (rules : RuleSet) :
    ReadsValue (RuleSet.decode levels) (write level rules.toJson) rules := by
  have hmap : ReadsValue (Decode.map FieldRule.decode levels) (write level rules.toJson)
      rules.entries := by
    apply readsValue_map hw (by omega) rules.nodup
    intro e _
    exact e.2.readsValue_decode hw (by omega) (level + 1)
  intro gap rest hg he
  unfold RuleSet.decode
  apply (hmap gap rest hg he).bind
  rw [OrderedMap.ofList_entries]
  exact Reads.pure rules rest

end FormRules
