import FormRules.Field.Rule
import FormRules.Json.Printer
import FormRules.Json.Reader

/-!
# The wire form of field rules

Rules travel as JSON.  A constraint is an object whose member `type` names its
kind; `nullable` is written only when it is set.

The rules are read from their text in one pass, and the first fault of syntax or
shape is reported with its path and place.  Members that are not known are passed
over.  A list may stand for an object: its items are the members in their order.
-/

namespace FormRules

open Json Json.Decode

/-! ## Writing -/

def Json.ofTexts (texts : List String) : Json :=
  .array (texts.map .string)

def Constraint.members : Constraint → List (String × Json)
  | .min bound | .max bound | .size bound => [("value", .ofInt64 bound)]
  | .oneOf values => [("values", .ofTexts values)]
  | .pattern text => [("pattern", .string text)]
  | .confirmed field => [("field", .string field)]
  | .unique table column | .existing table column =>
    [("table", .ofOption table), ("column", .ofOption column)]
  | .after date | .before date => [("date", .string date)]
  | .mimes types => [("types", .ofTexts types)]
  | .image | .email | .url => []

def Constraint.toJson (c : Constraint) : Json :=
  .object (("type", .string c.kind.name) :: c.members)

def FieldRule.members (rule : FieldRule) : List (String × Json) :=
  [("type", .string rule.base.name), ("required", .bool rule.required)] ++
    (if rule.nullable then [("nullable", .bool true)] else []) ++
    [("rules", .array (rule.constraints.map Constraint.toJson))]

def FieldRule.toJson (rule : FieldRule) : Json :=
  .object rule.members

def RuleSet.toJson (rules : RuleSet) : Json :=
  .object (rules.entries.map fun e => (e.1, e.2.toJson))

/-! ## Types -/

def Json.Decode.oneOfNames {α : Type} (find : String → Option α) (known : List String)
    (wanted : String) : Decode α :=
  placed do
    let name ← string wanted
    match find name with
    | some a => return a
    | none => failOpen (.unknownVariant name known)

def BaseType.decodeName : Decode BaseType :=
  oneOfNames BaseType.ofName? (BaseType.all.map BaseType.name) "variant identifier"

/-- Read a type: its name, or an object with the name as the key of null. -/
def BaseType.decode (depth : Nat) : Decode BaseType := do
  match ← peekToken with
  | none => failAhead .eofInValue
  | some c =>
    if c = '"' then BaseType.decodeName
    else if c = '{' then
      if depth - 1 = 0 then failAhead .tooDeep
      else
        advance
        let base ← BaseType.decodeName
        colon
        within (.member base.name) unit
        match ← peekToken with
        | none => fail .eofInObject
        | some d =>
          if d = '}' then advance; return base
          else fail .valueWanted
    else failAhead .valueWanted

/-! ## Constraints -/

namespace Constraint

inductive Shape where
  | integer
  | text
  | texts
  | optionalText

def Kind.shapes : Kind → List (String × Shape)
  | .min | .max | .size => [("value", .integer)]
  | .oneOf => [("values", .texts)]
  | .pattern => [("pattern", .text)]
  | .confirmed => [("field", .text)]
  | .unique | .existing => [("table", .optionalText), ("column", .optionalText)]
  | .after | .before => [("date", .text)]
  | .mimes => [("types", .texts)]
  | .image | .email | .url => []

/-- The name of a kind in messages about its number of members. -/
def Kind.title : Kind → String
  | .min => "Min"
  | .max => "Max"
  | .size => "Size"
  | .oneOf => "Enum"
  | .pattern => "Regex"
  | .confirmed => "Confirmed"
  | .unique => "Unique"
  | .existing => "Exists"
  | .after => "After"
  | .before => "Before"
  | .mimes => "Mimes"
  | .image => "Image"
  | .email => "Email"
  | .url => "Url"

def readInt64 : Json → Except Fault Int64
  | .number (.int i h) =>
    if i < 9223372036854775808 then .ok (Int64.ofInt i)
    else .error (.wrongValue (.number (.int i h)) "i64")
  | other => .error (.wrongType (.ofValue other) "i64")

def readText : Json → Except Fault String
  | .string s => .ok s
  | other => .error (.wrongType (.ofValue other) "a string")

def readTexts : Json → Except Fault (List String)
  | .array items => items.mapM readText
  | other => .error (.wrongType (.ofValue other) "a sequence")

def readOptionalText : Json → Except Fault (Option String)
  | .null => .ok none
  | other => (readText other).map some

def Shape.fault? (shape : Shape) (value : Json) : Option Fault :=
  let failure {α : Type} : Except Fault α → Option Fault
    | .ok _ => none
    | .error fault => some fault
  match shape with
  | .integer => failure (readInt64 value)
  | .text => failure (readText value)
  | .texts => failure (readTexts value)
  | .optionalText => failure (readOptionalText value)

/-- The first fault of some members: a known one that comes twice or has another shape. -/
def firstFault? (shapes : List (String × Shape)) : List String → List (String × Json) → Option Fault
  | _, [] => none
  | seen, (key, value) :: rest =>
    match Entries.get? key shapes with
    | none => firstFault? shapes seen rest
    | some shape =>
      if seen.contains key then some (.duplicateField key)
      else
        match shape.fault? value with
        | some fault => some fault
        | none => firstFault? shapes (key :: seen) rest

def required {α : Type} (read : Json → Except Fault α) (key : String)
    (members : List (String × Json)) : Except Fault α :=
  match Entries.get? key members with
  | some value => read value
  | none => .error (.missingField key)

def optional (key : String) (members : List (String × Json)) : Except Fault (Option String) :=
  match Entries.get? key members with
  | some value => readOptionalText value
  | none => .ok none

def build (kind : Kind) (members : List (String × Json)) : Except Fault Constraint :=
  match kind with
  | .min => return .min (← required readInt64 "value" members)
  | .max => return .max (← required readInt64 "value" members)
  | .size => return .size (← required readInt64 "value" members)
  | .oneOf => return .oneOf (← required readTexts "values" members)
  | .pattern => return .pattern (← required readText "pattern" members)
  | .confirmed => return .confirmed (← required readText "field" members)
  | .unique => return .unique (← optional "table" members) (← optional "column" members)
  | .existing => return .existing (← optional "table" members) (← optional "column" members)
  | .after => return .after (← required readText "date" members)
  | .before => return .before (← required readText "date" members)
  | .mimes => return .mimes (← required readTexts "types" members)
  | .image => return .image
  | .email => return .email
  | .url => return .url

/-- The constraint of a kind with some members, which are checked in their order. -/
def ofMembers (kind : Kind) (members : List (String × Json)) : Except Fault Constraint :=
  match firstFault? kind.shapes [] members with
  | some fault => .error fault
  | none => build kind members

def elements (n : Nat) : String :=
  String.ofList (Decimal.digits n) ++ (if n = 1 then " element" else " elements")

/-- The constraint of a kind whose members are given as a list. -/
def ofItems (kind : Kind) (items : List Json) : Except Fault Constraint := do
  let count := kind.shapes.length
  let members := (kind.shapes.map Prod.fst).zip items
  match firstFault? kind.shapes [] members with
  | some fault => throw fault
  | none =>
    if items.length < count then
      throw (.wrongLength items.length
        ("struct variant Constraint::" ++ kind.title ++ " with " ++ elements count))
    else
      let c ← build kind members
      if count < items.length then
        throw (.wrongLength items.length (elements count ++ " in sequence"))
      else return c

def Kind.decode : Decode Kind :=
  oneOfNames Kind.ofName? (Kind.all.map Kind.name) "variant identifier"

inductive Part where
  | kind (k : Kind)
  | member (value : Json)

def kind? (parts : List (String × Part)) : Option Kind :=
  parts.findSome? fun
    | (_, .kind k) => some k
    | _ => none

def others (parts : List (String × Part)) : List (String × Json) :=
  parts.filterMap fun
    | (key, .member value) => some (key, value)
    | _ => none

inductive Draft where
  | ofMembers (kind : Kind) (members : List (String × Json))
  | ofItems (kind : Kind) (items : List Json)

def decodeMembers (depth : Nat) : Decode Draft := do
  let parts ← allMembers (onceEach ["type"]) fun key =>
    if key = "type" then .kind <$> Kind.decode else .member <$> value depth
  match kind? parts with
  | some k => return .ofMembers k (others parts)
  | none => failOpen (.missingField "type")

/-- Read the list of a constraint: its kind, then its members. -/
def decodeItems (depth : Nat) : Decode Draft := do
  if ← nextItem true then
    let k ← within (.item 0) Kind.decode
    return .ofItems k (← items (fun _ => value depth) ((← remaining) + 1) 1)
  else failOpen (.missingField "type")

def decodeDraft (depth : Nat) : Decode Draft :=
  expecting "internally tagged enum Constraint" fun c =>
    if c = '{' then some (inObject (depth - 1) (decodeMembers (depth - 1)))
    else if c = '[' then some (inArray (depth - 1) (decodeItems (depth - 1)))
    else none

def decode (depth : Nat) : Decode Constraint := do
  let result := match ← decodeDraft depth with
    | .ofMembers kind members => ofMembers kind members
    | .ofItems kind items => ofItems kind items
  match result with
  | .ok c => return c
  | .error fault => failOpen fault

end Constraint

/-! ## Field rules -/

namespace FieldRule

inductive Part where
  | base (b : BaseType)
  | required (b : Bool)
  | nullable (b : Bool)
  | constraints (cs : List Constraint)
  | unknown

def decodePart (depth : Nat) (key : String) : Decode Part :=
  if key = "type" then .base <$> BaseType.decode depth
  else if key = "required" then .required <$> bool
  else if key = "nullable" then .nullable <$> bool
  else if key = "rules" then .constraints <$> list Constraint.decode depth
  else do
    skipValue
    return .unknown

def decodeMembers (depth : Nat) : Decode FieldRule := do
  let parts ← allMembers (onceEach ["type", "required", "nullable", "rules"]) (decodePart depth)
  let find {α : Type} (f : Part → Option α) : Option α := parts.findSome? fun p => f p.2
  match find fun | .base b => some b | _ => none with
  | none => failOpen (.missingField "type")
  | some base =>
    match find fun | .required b => some b | _ => none with
    | none => failOpen (.missingField "required")
    | some required =>
      return {
        base, required
        nullable := (find fun | .nullable b => some b | _ => none).getD false
        constraints := (find fun | .constraints cs => some cs | _ => none).getD [] }

def listShape : String := "struct FieldRule with 4 elements"

/-- Read the list of a field rule; the last two items may be missing. -/
def decodeItems (depth : Nat) : Decode FieldRule := do
  if !(← nextItem true) then failOpen (.wrongLength 0 listShape)
  let base ← within (.item 0) (BaseType.decode depth)
  if !(← nextItem false) then failOpen (.wrongLength 1 listShape)
  let required ← within (.item 1) bool
  let nullable ← if ← nextItem false then within (.item 2) bool else pure false
  let constraints ←
    if ← nextItem false then within (.item 3) (list Constraint.decode depth) else pure []
  return { base, required, nullable, constraints }

def decode (depth : Nat) : Decode FieldRule :=
  expecting "struct FieldRule" fun c =>
    if c = '{' then some (inObject (depth - 1) (decodeMembers (depth - 1)))
    else if c = '[' then some (inArray (depth - 1) (decodeItems (depth - 1)))
    else none

def ofText (s : String) : Except DecodeError FieldRule :=
  (decode depthLimit).run s.toList

end FieldRule

/-! ## Rule sets -/

/-- Read a rule set; the last rule of a repeated field counts. -/
def RuleSet.decode (depth : Nat) : Decode RuleSet := do
  return OrderedMap.ofList (← map FieldRule.decode depth)

def RuleSet.ofText (s : String) : Except DecodeError RuleSet :=
  (RuleSet.decode depthLimit).run s.toList

end FormRules
