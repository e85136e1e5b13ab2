import FormRules.OrderedMap

/-!
# Field rules

What the rules of a form say about its fields: the type of a field's value,
whether a value has to be there, and the constraints on it in the order in
which they are checked.
-/

namespace FormRules

/-! ## Types of values -/

inductive BaseType where
  | string
  | number
  | boolean
  | date
  | array
  | file
deriving DecidableEq, Repr

def BaseType.name : BaseType → String
  | .string => "string"
  | .number => "number"
  | .boolean => "boolean"
  | .date => "date"
  | .array => "array"
  | .file => "file"

/-- The types in the order in which messages list them. -/
def BaseType.all : List BaseType :=
  [.string, .number, .boolean, .date, .array, .file]

def BaseType.ofName? (name : String) : Option BaseType :=
  BaseType.all.find? fun b => b.name = name

theorem BaseType.ofName?_name (b : BaseType) : BaseType.ofName? b.name = some b := by
  cases b <;> rfl

/-! ## Constraints -/

inductive Constraint where
  | min (bound : Int64)
  | max (bound : Int64)
  | size (bound : Int64)
  | oneOf (values : List String)
  /-- The value matches a regular expression, which may stand between delimiters. -/
  | pattern (text : String)
  | confirmed (field : String)
  /-- No row of a table holds the value; only the server can tell. -/
  | unique (table column : Option String)
  | existing (table column : Option String)
  | after (date : String)
  | before (date : String)
  | mimes (types : List String)
  | image
  | email
  | url
deriving DecidableEq

inductive Constraint.Kind where
  | min
  | max
  | size
  | oneOf
  | pattern
  | confirmed
  | unique
  | existing
  | after
  | before
  | mimes
  | image
  | email
  | url
deriving DecidableEq, Repr

/-- The name that tells a kind in the wire form. -/
def Constraint.Kind.name : Constraint.Kind → String
  | .min => "min"
  | .max => "max"
  | .size => "size"
  | .oneOf => "enum"
  | .pattern => "regex"
  | .confirmed => "confirmed"
  | .unique => "unique"
  | .existing => "exists"
  | .after => "after"
  | .before => "before"
  | .mimes => "mimes"
  | .image => "image"
  | .email => "email"
  | .url => "url"

def Constraint.Kind.all : List Constraint.Kind :=
  [.min, .max, .size, .oneOf, .pattern, .confirmed, .unique, .existing, .after, .before, .mimes,
    .image, .email, .url]

def Constraint.Kind.ofName? (name : String) : Option Constraint.Kind :=
  Constraint.Kind.all.find? fun k => k.name = name

theorem Constraint.Kind.ofName?_name (k : Constraint.Kind) : ofName? k.name = some k := by
  cases k <;> rfl

def Constraint.kind : Constraint → Constraint.Kind
  | .min _ => .min
  | .max _ => .max
  | .size _ => .size
  | .oneOf _ => .oneOf
  | .pattern _ => .pattern
  | .confirmed _ => .confirmed
  | .unique _ _ => .unique
  | .existing _ _ => .existing
  | .after _ => .after
  | .before _ => .before
  | .mimes _ => .mimes
  | .image => .image
  | .email => .email
  | .url => .url

/-! ## Rules -/

structure FieldRule where
  base : BaseType := .string
  required : Bool := false
  /-- Whether null counts as no value. -/
  nullable : Bool := false
  constraints : List Constraint := []
deriving DecidableEq

instance : Inhabited FieldRule := ⟨{}⟩

abbrev RuleSet := OrderedMap FieldRule

end FormRules
