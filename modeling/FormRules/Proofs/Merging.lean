import Mathlib.Data.List.Forall2
import FormRules.Command.Source
import FormRules.Proofs.Insertions

/-!
# Merging of rule documents

Rules may come from several documents.  A field stands where it first appears in
any of them and has the rule of the last one that names it, and it does not
matter whether the documents or their rules are merged.  The same law holds for
rule sets that are put together by insertions and extensions.
-/

namespace FormRules

/-! ## Documents -/

def Json.members (value : Json) : List (String × Json) :=
  value.asObject?.getD []

namespace RawRuleSet

def merge (documents : List Json) : RawRuleSet :=
  documents.foldl (fun raw d => raw.extend (ofJson d)) OrderedMap.empty

theorem ofJson_eq_ofList (document : Json) :
    ofJson document = OrderedMap.ofList
      (document.members.map fun m => (m.1, RuleSpec.ofJson m.2)) := by
  cases document <;> rfl

theorem merge_eq_ofList (documents : List Json) :
    merge documents = OrderedMap.ofList
      ((documents.flatMap Json.members).map fun m => (m.1, RuleSpec.ofJson m.2)) := by
  unfold merge
  simp only [ofJson_eq_ofList]
  rw [List.map_flatMap]
  exact OrderedMap.foldl_extend _ documents []

end RawRuleSet

namespace RuleSet

variable (documents : List Json)

/-- A merged set is built by inserting the rules of all members, one after the other. -/
theorem merge_eq_ofList : merge documents = OrderedMap.ofList
    ((documents.flatMap Json.members).map fun m =>
      (m.1, (RuleSpec.ofJson m.2).normalize m.1)) := by
  have rules (d : Json) : (RawRuleSet.ofJson d).normalize = OrderedMap.ofList
      (d.members.map fun m => (m.1, (RuleSpec.ofJson m.2).normalize m.1)) := by
    unfold RawRuleSet.normalize
    rw [RawRuleSet.ofJson_eq_ofList, OrderedMap.mapValues_ofList, List.map_map]
    rfl
  unfold merge
  simp only [rules]
  rw [List.map_flatMap]
  exact OrderedMap.foldl_extend _ documents []

theorem merge_eq_normalize : merge documents = (RawRuleSet.merge documents).normalize := by
  unfold RawRuleSet.normalize
  rw [merge_eq_ofList, RawRuleSet.merge_eq_ofList, OrderedMap.mapValues_ofList, List.map_map]
  rfl

theorem keys_merge :
    (merge documents).keys = (Entries.keys (documents.flatMap Json.members)).eraseDups := by
  rw [merge_eq_ofList, OrderedMap.keys_ofList]
  congr 1
  exact Entries.keys_map fun m => (RuleSpec.ofJson m.2).normalize m.1

theorem get?_merge (field : String) :
    (merge documents).get? field =
      (documents.reverse.findSome? fun d => Entries.last? field d.members).map fun spec =>
        (RuleSpec.ofJson spec).normalize field := by
  rw [merge_eq_ofList, OrderedMap.get?_ofList, ← Entries.last?_flatMap]
  exact Entries.last?_map fun field spec => (RuleSpec.ofJson spec).normalize field

theorem merge_filter_isObject :
    merge (documents.filter fun d => d.asObject?.isSome) = merge documents := by
  have members : (documents.filter fun d => d.asObject?.isSome).flatMap Json.members =
      documents.flatMap Json.members := by
    induction documents with
    | nil => rfl
    | cons d rest ih =>
        cases h : d.asObject? with
        | none => simp [h, ih, Json.members]
        | some members => simp [h, ih]
  rw [merge_eq_ofList, merge_eq_ofList, members]

end RuleSet

/-! ## Files -/

namespace Command

theorem bind_eq_ok_iff {α β : Type} {x : Except Failure α} {f : α → Except Failure β} {b : β} :
    x >>= f = .ok b ↔ ∃ a, x = .ok a ∧ f a = .ok b := by
  cases x <;> simp [bind, Except.bind]

theorem gather_eq_ok_iff {α β : Type} {f : α → Except Failure (List β)} {items : List α}
    {found : List β} :
    gather f items = .ok found ↔
      ∃ parts, List.Forall₂ (fun a part => f a = .ok part) items parts ∧ found = parts.flatten := by
  induction items generalizing found with
  | nil => simp [gather, eq_comm]
  | cons a rest ih =>
      unfold gather
      simp only [bind_eq_ok_iff, ih]
      constructor
      · rintro ⟨part, front, _, ⟨parts, each, rfl⟩, joined⟩
        exact ⟨part :: parts, .cons front each, (Except.ok.inj joined).symm⟩
      · rintro ⟨_, each, rfl⟩
        cases each with
        | cons front each => exact ⟨_, front, _, ⟨_, each, rfl⟩, rfl⟩

section documents

variable {w : Workspace} {selection : Selection} {path : String}

theorem readDocument_eq_ok_iff {document : Json} :
    readDocument w path = .ok document ↔
      ∃ text, readText w path = .ok text ∧ Json.ofText text = .ok document := by
  unfold readDocument
  rw [bind_eq_ok_iff]
  refine exists_congr fun text => and_congr_right fun _ => ?_
  cases Json.ofText text <;> simp [pure, Except.pure]

theorem pointed_eq_ok_iff {pointer : Option String} {document part : Json} :
    pointed pointer path document = .ok part ↔
      (pointer = none ∧ part = document) ∨
        ∃ p, pointer = some p ∧ Json.Pointer.select? p document = some part := by
  unfold pointed
  cases pointer with
  | none => simp [eq_comm]
  | some p => cases selected : Json.Pointer.select? p document <;> simp [selected]

theorem filtered_eq_ok_iff {filter : Option String} {part : Json} {outputs : List Json} :
    filtered filter path part = .ok outputs ↔
      (filter = none ∧ outputs = [part]) ∨
        ∃ f, filter = some f ∧ Query.run f part = .ok outputs := by
  unfold filtered
  cases filter with
  | none => simp [eq_comm]
  | some f => cases found : Query.run f part <;> simp [found]

/-- The rule documents in a file are the outputs of the filter on the part of the file's document
that the pointer leads to.  Without a filter the part itself is the only one, and without a pointer
the part is the whole. -/
theorem documentsIn_eq_ok_iff {outputs : List Json} :
    documentsIn w selection path = .ok outputs ↔
      ∃ text document part, readText w path = .ok text ∧ Json.ofText text = .ok document ∧
        ((selection.pointer = none ∧ part = document) ∨
          ∃ p, selection.pointer = some p ∧ Json.Pointer.select? p document = some part) ∧
        ((selection.filter = none ∧ outputs = [part]) ∨
          ∃ f, selection.filter = some f ∧ Query.run f part = .ok outputs) := by
  unfold documentsIn
  simp only [bind_eq_ok_iff, readDocument_eq_ok_iff, pointed_eq_ok_iff, filtered_eq_ok_iff]
  constructor
  · rintro ⟨document, ⟨text, read, decoded⟩, part, selected, found⟩
    exact ⟨text, document, part, read, decoded, selected, found⟩
  · rintro ⟨text, document, part, read, decoded, selected, found⟩
    exact ⟨document, ⟨text, read, decoded⟩, part, selected, found⟩

/-- The rules of a selection are those of the documents in its files, in the order of the paths. -/
theorem loadRules_eq_ok_iff {rules : RuleSet} :
    loadRules w selection = .ok rules ↔
      ∃ paths parts, resolveAll w selection.inputs = .ok paths ∧
        List.Forall₂ (fun path part => documentsIn w selection path = .ok part) paths parts ∧
        rules = RuleSet.merge parts.flatten := by
  have merged : loadRules w selection = .ok rules ↔
      ∃ found, documents w selection = .ok found ∧ rules = RuleSet.merge found := by
    unfold loadRules
    cases documents w selection <;> simp [Except.map, eq_comm]
  rw [merged]
  unfold documents
  simp only [bind_eq_ok_iff, gather_eq_ok_iff]
  constructor
  · rintro ⟨_, ⟨paths, resolved, parts, each, rfl⟩, rfl⟩
    exact ⟨paths, parts, resolved, each, rfl⟩
  · rintro ⟨paths, parts, resolved, each, rfl⟩
    exact ⟨_, ⟨paths, resolved, parts, each, rfl⟩, rfl⟩

/-- A selection of one file, without a pointer and a filter, takes its document as it is. -/
theorem loadRules_of_readDocument {input : String} {document : Json}
    (resolved : resolveAll w [input] = .ok [path]) (read : readDocument w path = .ok document) :
    loadRules w ⟨[input], none, none⟩ = .ok (RuleSet.merge [document]) := by
  obtain ⟨text, found, decoded⟩ := readDocument_eq_ok_iff.1 read
  have whole : documentsIn w ⟨[input], none, none⟩ path = .ok [document] :=
    documentsIn_eq_ok_iff.2
      ⟨text, document, document, found, decoded, .inl ⟨rfl, rfl⟩, .inl ⟨rfl, rfl⟩⟩
  exact loadRules_eq_ok_iff.2 ⟨[path], [[document]], resolved, .cons whole .nil, rfl⟩

end documents

end Command

/-! ## Updates -/

namespace RuleSet

inductive Update where
  | insert (field : String) (rule : FieldRule)
  | extend (more : RuleSet)

def Update.written : Update → List (String × FieldRule)
  | .insert field rule => [(field, rule)]
  | .extend more => more.entries

def after (rules : RuleSet) : Update → RuleSet
  | .insert field rule => (rules.exchange field rule).2
  | .extend more => rules.extend more

def run (rules : RuleSet) (updates : List Update) : RuleSet :=
  updates.foldl after rules

theorem after_ofList (entries : List (String × FieldRule)) (update : Update) :
    after (OrderedMap.ofList entries) update = OrderedMap.ofList (entries ++ update.written) := by
  cases update with
  | insert field rule =>
      simp only [after, Update.written, OrderedMap.exchange_eq, OrderedMap.ofList_concat]
  | extend more =>
      rw [OrderedMap.ofList_append]
      rfl

theorem run_ofList (entries : List (String × FieldRule)) (updates : List Update) :
    run (OrderedMap.ofList entries) updates =
      OrderedMap.ofList (entries ++ updates.flatMap Update.written) := by
  unfold run
  -- The entries written so far carry the induction: they determine the set that is reached.
  induction updates generalizing entries with
  | nil => simp
  | cons update rest ih =>
      rw [List.foldl_cons, after_ofList, ih, List.flatMap_cons, List.append_assoc]

theorem run_eq_ofList (start : RuleSet) (updates : List Update) :
    start.run updates = OrderedMap.ofList (start.entries ++ updates.flatMap Update.written) := by
  rw [← run_ofList, OrderedMap.ofList_entries]

/-! ## Laws -/

theorem extend_assoc (a b c : RuleSet) : (a.extend b).extend c = a.extend (b.extend c) := by
  rw [← OrderedMap.ofList_entries a, ← OrderedMap.ofList_entries b, ← OrderedMap.ofList_entries c]
  simp only [OrderedMap.extend_ofList, List.append_assoc]

theorem empty_extend (a : RuleSet) : OrderedMap.empty.extend a = a :=
  OrderedMap.ofList_entries a

theorem extend_empty (a : RuleSet) : a.extend OrderedMap.empty = a := rfl

/-- The rules that a selection loads are those of the documents in its files, in order: a field
stands where it first appears in any document and has the rule of the last one that names it, and
what is no object adds nothing.  Documents can as well be merged before they are normalized.

Rule sets by themselves form a monoid under extension.  After any updates a field stands where it
was first written and has the rule written last, which is the one that another insertion takes out;
and a set is rebuilt from its entries. -/
theorem later_rules_over_earlier :
    (∀ documents : List Json,
      let rules := merge documents
      rules.keys.Nodup ∧
      rules.keys = (Entries.keys (documents.flatMap Json.members)).eraseDups ∧
      (∀ field, rules.get? field =
        (documents.reverse.findSome? fun d => Entries.last? field d.members).map fun spec =>
          (RuleSpec.ofJson spec).normalize field) ∧
      merge (documents.filter fun d => d.asObject?.isSome) = rules ∧
      rules = (RawRuleSet.merge documents).normalize) ∧
    (∀ w selection rules, Command.loadRules w selection = .ok rules ↔
      ∃ paths parts, Command.resolveAll w selection.inputs = .ok paths ∧
        List.Forall₂ (fun path part => Command.documentsIn w selection path = .ok part)
          paths parts ∧
        rules = merge parts.flatten) ∧
    (∀ a b c : RuleSet, (a.extend b).extend c = a.extend (b.extend c)) ∧
    (∀ a : RuleSet, OrderedMap.empty.extend a = a ∧ a.extend OrderedMap.empty = a) ∧
    (∀ (start : RuleSet) (updates : List Update),
      let rules := start.run updates
      let written := start.entries ++ updates.flatMap Update.written
      rules.keys = (Entries.keys written).eraseDups ∧
      (∀ field, rules.get? field = Entries.last? field written) ∧
      ∀ field rule, rules.exchange field rule =
        (Entries.last? field written, start.run (updates ++ [.insert field rule]))) ∧
    ∀ a : RuleSet, OrderedMap.ofList a.entries = a := by
  refine ⟨fun documents => ?_, fun _ _ _ => Command.loadRules_eq_ok_iff, extend_assoc,
    fun a => ⟨empty_extend a, extend_empty a⟩, fun start updates => ?_, OrderedMap.ofList_entries⟩
  · exact ⟨(merge documents).nodup, keys_merge documents, get?_merge documents,
      merge_filter_isObject documents, merge_eq_normalize documents⟩
  · have value (field : String) : (start.run updates).get? field =
        Entries.last? field (start.entries ++ updates.flatMap Update.written) := by
      rw [run_eq_ofList, OrderedMap.get?_ofList]
    refine ⟨by rw [run_eq_ofList, OrderedMap.keys_ofList], value, fun field rule => ?_⟩
    have next : start.run (updates ++ [.insert field rule]) =
        (start.run updates).insert field rule := by
      simp [run, after, OrderedMap.exchange_eq]
    rw [OrderedMap.exchange_eq, value, next]

/-- The second document moves no field and takes over `age` and `mail`; the companion of a
confirmed field is named after the field. -/
example :
    (merge [.object [("age", .string "integer|min:18"), ("mail", .string "required")],
        .string "name", .object [("mail", .array [.string "email", .string "confirmed"]),
          ("name", .null), ("age", .string "numeric")]]).entries =
      [("age", { base := .number }),
        ("mail", { constraints := [.email, .confirmed "mail_confirmation"] }), ("name", {})] := by
  decide

end RuleSet

end FormRules
