import FormRules.Schema.Check

/-!
# Schemas

The executable form of a rule set.  Compiling never fails because of a single
constraint: a pattern that the engine rejects is left out and noted as an issue.
A field reports the first thing that is wrong with its value, and a record is
checked in all its fields.
-/

namespace FormRules

/-! ## Fields -/

structure FieldSchema where
  base : BaseType
  required : Bool
  nullable : Bool
  checks : List Check

namespace FieldSchema

def compile (now : DateTime) (rule : FieldRule) : Except ClockOverflow FieldSchema := do
  let checks ← rule.constraints.mapM (Check.of? now)
  let last := if rule.required && rule.base = .string then [Check.notEmpty] else []
  return {
    base := rule.base, required := rule.required, nullable := rule.nullable
    checks := checks.filterMap id ++ last }

def complaintAt? (f : FieldSchema) (value : Json) (record : Option Record) : Option Complaint :=
  match f.base.complaint? value with
  | some complaint => some complaint
  | none => f.checks.findSome? fun check => check.complaint? f.base value record

/-- What is wrong with a value, which may be absent, in the record around it. -/
def complaint? (f : FieldSchema) (value : Option Json) (record : Option Record) :
    Option Complaint :=
  match value with
  | none => if f.required then some .required else none
  | some .null =>
    if f.required then some .required
    else if f.nullable then none
    else f.complaintAt? .null record
  | some value => f.complaintAt? value record

end FieldSchema

/-! ## Forms -/

structure CompileIssue where
  field : String
  pattern : String
deriving DecidableEq

def CompileIssue.message (i : CompileIssue) : String :=
  "field \x60" ++ i.field ++ "\x60: pattern \x60" ++ i.pattern ++ "\x60 does not compile: "

structure Schema where
  fields : OrderedMap FieldSchema
  /-- What was left out, in the order of fields and constraints. -/
  issues : List CompileIssue

structure Validation where
  errors : OrderedMap Complaint

def Validation.ok (v : Validation) : Bool :=
  v.errors.isEmpty

namespace Schema

def empty : Schema :=
  ⟨OrderedMap.empty, []⟩

def issuesOf (field : String) (rule : FieldRule) : List CompileIssue :=
  rule.constraints.filterMap fun c => c.brokenPattern?.map fun pattern => ⟨field, pattern⟩

def compileFields (now : DateTime) :
    List (String × FieldRule) → Except ClockOverflow (List (String × FieldSchema))
  | [] => .ok []
  | (name, rule) :: rest => do
    let field ← FieldSchema.compile now rule
    return (name, field) :: (← compileFields now rest)

def compile (now : DateTime) (rules : RuleSet) : Except ClockOverflow Schema := do
  let fields ← compileFields now rules.entries
  return {
    fields := OrderedMap.ofList fields
    issues := rules.entries.flatMap fun e => issuesOf e.1 e.2 }

/-- The schema of the named fields; names without a field do not matter. -/
def subset (s : Schema) (names : List String) : Schema :=
  { fields := s.fields.restrict names.contains
    issues := s.issues.filter fun i => names.contains i.field }

/-- What is wrong with a value on its own; a field that is not known has nothing wrong. -/
def fieldComplaint? (s : Schema) (name : String) (value : Option Json) : Option Complaint :=
  match s.fields.get? name with
  | some field => field.complaint? value none
  | none => none

def complaints (s : Schema) (record : Record) : List (String × Complaint) :=
  s.fields.entries.filterMap fun e =>
    (e.2.complaint? (Entries.get? e.1 record) (some record)).map fun c => (e.1, c)

def validateRecord (s : Schema) (record : Record) : Validation :=
  ⟨OrderedMap.ofList (s.complaints record)⟩

/-- Check a value as a record; what is no object counts as an empty record. -/
def validate (s : Schema) (value : Json) : Validation :=
  s.validateRecord (value.asObject?.getD [])

end Schema

end FormRules
