import FormRules.Declaration
import FormRules.Field.Wire
import FormRules.Rule.Normal
import FormRules.Schema.Form

/-!
# Payloads

What a page gets together with a form: the rules of the action that the form
submits to, the interface of the same rules, and the names of the actions.
-/

namespace FormRules

open Json Json.Decode

/-! ## Where rules come from -/

/-- The action whose rules a page's action needs; pages that only show need none. -/
def validationAction? (action : String) : Option String :=
  if action = "create" then some "store"
  else if action = "edit" then some "update"
  else if action = "show" || action = "index" then none
  else some action

structure Catalogue where
  handlers : OrderedMap (OrderedMap Json)

namespace Catalogue

def empty : Catalogue :=
  ⟨OrderedMap.empty⟩

/-- Register rules for an action of a handler; they replace those registered before. -/
def register (c : Catalogue) (handler action : String) (rules : Json) : Catalogue :=
  let actions := (c.handlers.get? handler).getD OrderedMap.empty
  ⟨c.handlers.insert handler (actions.insert action rules)⟩

def rules? (c : Catalogue) (handler action : String) : Option Json :=
  (c.handlers.get? handler).bind fun actions => actions.get? action

/-- The raw rule set of an action of a handler; an empty one if nothing is registered. -/
def rulesFor (c : Catalogue) (handler action : String) : RawRuleSet :=
  match c.rules? handler action with
  | some rules => RawRuleSet.ofJson rules
  | none => OrderedMap.empty

end Catalogue

/-! ## Payloads -/

structure Payload where
  rules : RuleSet
  declaration : String
  method : String
  action : String
deriving DecidableEq

namespace Payload

def new (rules : RuleSet) (method action : String) : Payload :=
  { rules, declaration := Declaration.text Declaration.defaultName rules, method, action }

/-- The payload of a page; `none` if its action needs no rules or there are none. -/
def build? (catalogue : Catalogue) (handler action : String) : Option Payload := do
  let method ← validationAction? action
  let raw := catalogue.rulesFor handler method
  if raw.isEmpty then none else some (new raw.normalize method action)

def members (p : Payload) : List (String × Json) :=
  [("validationRules", p.rules.toJson), ("typeScriptInterface", .string p.declaration),
    ("validationMethod", .string p.method), ("currentAction", .string p.action)]

def toJson (p : Payload) : Json :=
  .object p.members

def form (now : DateTime) (p : Payload) : Except ClockOverflow Form :=
  (Schema.compile now p.rules).map Form.new

/-! ## Reading -/

def memberNames : List String :=
  ["validationRules", "typeScriptInterface", "validationMethod", "currentAction"]

inductive Part where
  | rules (r : RuleSet)
  | text (s : String)
  | unknown

def decodePart (depth : Nat) (key : String) : Decode Part :=
  if key = "validationRules" then .rules <$> RuleSet.decode depth
  else if memberNames.contains key then .text <$> Decode.string "a string"
  else do
    skipValue
    return .unknown

def textPart (parts : List (String × Part)) (key : String) : Decode String :=
  match Entries.get? key parts with
  | some (.text s) => return s
  | _ => failOpen (.missingField key)

def decodeMembers (depth : Nat) : Decode Payload := do
  let parts ← allMembers (onceEach memberNames) (decodePart depth)
  match Entries.get? "validationRules" parts with
  | some (.rules rules) =>
    return {
      rules
      declaration := ← textPart parts "typeScriptInterface"
      method := ← textPart parts "validationMethod"
      action := ← textPart parts "currentAction" }
  | _ => failOpen (.missingField "validationRules")

def listShape : String := "struct ValidationPayload with 4 elements"

def decodeItem {α : Type} (index : Nat) (item : Decode α) : Decode α := do
  if ← nextItem (index = 0) then within (.item index) item
  else failOpen (.wrongLength index listShape)

def decodeItems (depth : Nat) : Decode Payload := do
  return {
    rules := ← decodeItem 0 (RuleSet.decode depth)
    declaration := ← decodeItem 1 (Decode.string "a string")
    method := ← decodeItem 2 (Decode.string "a string")
    action := ← decodeItem 3 (Decode.string "a string") }

def decode (depth : Nat) : Decode Payload :=
  expecting "struct ValidationPayload" fun c =>
    if c = '{' then some (inObject (depth - 1) (decodeMembers (depth - 1)))
    else if c = '[' then some (inArray (depth - 1) (decodeItems (depth - 1)))
    else none

def ofText (s : String) : Except DecodeError Payload :=
  (decode depthLimit).run s.toList

end Payload

end FormRules
