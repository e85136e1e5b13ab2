import FormRules.Schema.Basic

/-!
# Forms in use

A schema with the complaints that are shown at present.
-/

namespace FormRules

structure Form where
  schema : Schema
  errors : OrderedMap Complaint

namespace Form

def new (schema : Schema) : Form :=
  ⟨schema, OrderedMap.empty⟩

/-- Check a whole record; its complaints replace the ones shown. -/
def validateAll (form : Form) (data : Json) : Form × Bool :=
  let v := form.schema.validate data
  ({ form with errors := v.errors }, v.ok)

/-- Check one field; only its complaint is set or cleared. -/
def validateOne (form : Form) (field : String) (value : Option Json) : Form × Bool :=
  match form.schema.fieldComplaint? field value with
  | none => ({ form with errors := form.errors.erase field }, true)
  | some complaint => ({ form with errors := form.errors.insert field complaint }, false)

/-- Clear the complaint of a field, or all of them. -/
def clear (form : Form) : Option String → Form
  | some field => { form with errors := form.errors.erase field }
  | none => { form with errors := OrderedMap.empty }

def error? (form : Form) (field : String) : Option Complaint :=
  form.errors.get? field

def hasErrors (form : Form) : Bool :=
  !form.errors.isEmpty

end Form

end FormRules
