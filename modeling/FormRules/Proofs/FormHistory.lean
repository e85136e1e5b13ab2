import FormRules.Proofs.Validation
import FormRules.Schema.Form

/-!
# The history of a form

A form in use is checked and cleared again and again.  What a field shows is
settled by the last operation that touches the field, whatever was done before
it; the other operations leave its entry and the order of the entries alone.
-/

namespace FormRules.Form

/-! ## Operations -/

inductive Operation where
  | validateAll (data : Json)
  | validateOne (field : String) (value : Option Json)
  | clear (field : Option String)

namespace Operation

/-- Whether an operation settles what a field shows. -/
def touches (field : String) : Operation → Bool
  | .validateAll _ => true
  | .validateOne name _ => field = name
  | .clear (some name) => field = name
  | .clear none => true

/-- What a field shows after an operation that touches it. -/
def leaves? (schema : Schema) (field : String) : Operation → Option Complaint
  | .validateAll data => (schema.validate data).errors.get? field
  | .validateOne name value => schema.fieldComplaint? name value
  | .clear _ => none

def last? (field : String) (ops : List Operation) : Option Operation :=
  ops.reverse.find? fun op => op.touches field

@[simp] theorem last?_nil (field : String) : last? field [] = none := rfl

theorem last?_cons (field : String) (op : Operation) (ops : List Operation) :
    last? field (op :: ops) =
      (last? field ops).or (if op.touches field then some op else none) := by
  unfold last?
  rw [List.reverse_cons, List.find?_append]
  cases h : op.touches field <;> simp [h]

end Operation

def after (form : Form) : Operation → Form
  | .validateAll data => (form.validateAll data).1
  | .validateOne field value => (form.validateOne field value).1
  | .clear field => form.clear field

def run (form : Form) (ops : List Operation) : Form :=
  ops.foldl after form

variable (form : Form) (op : Operation) (ops : List Operation)

@[simp] theorem run_nil : form.run [] = form := rfl

@[simp] theorem run_cons : form.run (op :: ops) = (form.after op).run ops := rfl

@[simp] theorem schema_after : (form.after op).schema = form.schema := by
  cases op with
  | validateAll data => rfl
  | validateOne field value =>
      simp only [after, validateOne]
      split <;> rfl
  | clear field => cases field <;> rfl

@[simp] theorem schema_run : (form.run ops).schema = form.schema := by
  induction ops generalizing form with
  | nil => rfl
  | cons op ops ih => rw [run_cons, ih, schema_after]

/-! ## Entries -/

theorem entries_validateOne (field : String) (value : Option Json) :
    (form.validateOne field value).1.errors.entries =
      match form.schema.fieldComplaint? field value with
      | none => form.errors.entries.filter fun e => e.1 ≠ field
      | some complaint =>
        if field ∈ form.errors.keys then
          form.errors.entries.map fun e => if e.1 = field then (field, complaint) else e
        else form.errors.entries ++ [(field, complaint)] := by
  unfold validateOne
  cases form.schema.fieldComplaint? field value with
  | none => rfl
  | some complaint => exact OrderedMap.entries_insert form.errors complaint

/-- The entries of the fields that an operation does not touch stay, in their order. -/
theorem untouched_after :
    (form.after op).errors.entries.filter (fun e => !op.touches e.1) =
      form.errors.entries.filter fun e => !op.touches e.1 := by
  have erased (name : String) : (form.errors.erase name).entries.filter (fun e => e.1 ≠ name) =
      form.errors.entries.filter fun e => e.1 ≠ name := by
    simp [OrderedMap.erase, Entries.erase]
  -- An operation that touches every field leaves nothing to compare.
  have all (h : ∀ field, op.touches field = true) (entries : List (String × Complaint)) :
      entries.filter (fun e => !op.touches e.1) = [] := by
    simp [h]
  cases op with
  | validateAll data => rw [all fun _ => rfl, all fun _ => rfl]
  | validateOne name value =>
      simp only [after, validateOne, Operation.touches, ← decide_not]
      cases form.schema.fieldComplaint? name value with
      | none => exact erased name
      | some complaint => exact Entries.filter_insert
  | clear name =>
      cases name with
      | none => rw [all fun _ => rfl, all fun _ => rfl]
      | some name =>
          simp only [after, clear, Operation.touches, ← decide_not]
          exact erased name

/-! ## What a field shows -/

theorem error?_after (field : String) :
    (form.after op).error? field =
      if op.touches field then op.leaves? form.schema field else form.error? field := by
  cases op with
  | validateAll data => rfl
  | validateOne name value =>
      simp only [after, validateOne, Operation.touches, Operation.leaves?, error?]
      cases form.schema.fieldComplaint? name value with
      | none => simp [OrderedMap.get?_erase]
      | some complaint => simp [OrderedMap.get?_insert]
  | clear name =>
      cases name with
      | none => rfl
      | some name =>
          simp [after, clear, Operation.touches, Operation.leaves?, error?, OrderedMap.get?_erase]

theorem error?_run (field : String) :
    (form.run ops).error? field =
      match Operation.last? field ops with
      | some op => op.leaves? form.schema field
      | none => form.error? field := by
  induction ops generalizing form with
  | nil => rfl
  | cons op ops ih =>
      rw [run_cons, ih, schema_after, Operation.last?_cons]
      cases Operation.last? field ops with
      | some later => rfl
      | none =>
          -- No later operation touches the field, so the first one counts if it does.
          rw [error?_after]
          cases op.touches field <;> rfl

/-- A field of a form that was new shows what the last operation on it left. -/
theorem error?_run_new (schema : Schema) (field : String) :
    ((new schema).run ops).error? field =
      (Operation.last? field ops).bind fun op => op.leaves? schema field := by
  rw [error?_run]
  cases Operation.last? field ops <;> rfl

/-! ## Fields with complaints -/

theorem Operation.known_of_leaves? {schema : Schema} {field : String} {complaint : Complaint}
    {op : Operation} (touched : op.touches field = true)
    (left : op.leaves? schema field = some complaint) : field ∈ schema.fields.keys := by
  rw [OrderedMap.mem_keys_iff, Option.isSome_iff_ne_none]
  intro unknown
  cases op with
  | validateAll data =>
      simp [leaves?, Schema.validate, Schema.get?_validateRecord, unknown] at left
  | validateOne name value =>
      obtain rfl : field = name := by simpa [touches] using touched
      simp [leaves?, Schema.fieldComplaint?, unknown] at left
  | clear name => simp [leaves?] at left

/-- Only fields of the schema have entries, so a field that is not known never leaves one. -/
theorem keys_run_new (schema : Schema) :
    ((new schema).run ops).errors.keys ⊆ schema.fields.keys := by
  intro field shown
  obtain ⟨complaint, h⟩ := Option.isSome_iff_exists.1 (OrderedMap.mem_keys_iff.1 shown)
  have left := (error?_run_new ops schema field).symm.trans h
  obtain ⟨op, last, left⟩ := Option.bind_eq_some_iff.1 left
  have touched : op.touches field = true := by
    simpa using List.find?_some last
  exact Operation.known_of_leaves? touched left

theorem hasErrors_iff :
    form.hasErrors = true ↔ ∃ field complaint, form.error? field = some complaint := by
  unfold hasErrors error?
  rw [Bool.not_eq_true', ← Bool.not_eq_true, OrderedMap.isEmpty_iff, Classical.not_forall]
  simp only [Option.ne_none_iff_exists']

theorem validateAll_answer (data : Json) :
    (form.validateAll data).2 = !(form.validateAll data).1.hasErrors := by
  simp [validateAll, hasErrors, Validation.ok]

/-! ## Histories -/

/-- Whatever was done to a form since it was new, a field shows what the last operation that
touches it left.  The entries have distinct names of known fields; the form has errors when some
field shows a complaint, and checking a record answers whether none does.  An operation leaves the
entries that it does not touch in their order; a complaint about a field that shows one already
takes its place, and another complaint goes last. -/
theorem settled_by_last_operation (schema : Schema) (ops : List Operation) :
    let form := (new schema).run ops
    (∀ field, form.error? field =
        (Operation.last? field ops).bind fun op => op.leaves? schema field) ∧
      form.errors.keys.Nodup ∧
      form.errors.keys ⊆ schema.fields.keys ∧
      (form.hasErrors = true ↔ ∃ field complaint, form.error? field = some complaint) ∧
      (∀ data, (form.validateAll data).2 = !(form.validateAll data).1.hasErrors) ∧
      (∀ op : Operation, (form.after op).errors.entries.filter (fun e => !op.touches e.1) =
        form.errors.entries.filter fun e => !op.touches e.1) ∧
      (∀ field value, (form.validateOne field value).1.errors.entries =
        match schema.fieldComplaint? field value with
        | none => form.errors.entries.filter fun e => e.1 ≠ field
        | some complaint =>
          if field ∈ form.errors.keys then
            form.errors.entries.map fun e => if e.1 = field then (field, complaint) else e
          else form.errors.entries ++ [(field, complaint)]) ∧
      (∀ field, (form.clear (some field)).errors.entries =
        form.errors.entries.filter fun e => e.1 ≠ field) := by
  intro form
  have same : form.schema = schema := schema_run (new schema) ops
  refine ⟨error?_run_new ops schema, form.errors.nodup, keys_run_new ops schema,
    hasErrors_iff form, validateAll_answer form, untouched_after form, ?_, ?_⟩
  · intro field value
    rw [entries_validateOne, same]
  · intro field
    rfl

/-- A field that passes loses its place: when it fails again, it goes last. -/
example :
    let rules : RuleSet := OrderedMap.ofList
      [("name", { required := true }), ("age", { base := .number, required := true })]
    let ops : List Operation := [.validateAll .null, .validateOne "name" (some (.string "Bo")),
      .validateOne "nickname" none, .validateOne "age" (some (.string "7")),
      .validateOne "name" (some (.string ""))]
    ((new (rules.schema .epoch)).run ops).errors.entries =
      [("age", .wrongType .number .string), ("name", .required)] := by
  decide

end FormRules.Form
