import FormRules.Calendar.Reading
import FormRules.Check.FileHandle
import FormRules.Field.Rule

/-!
# Types and sizes of values

Whether a value has the type of its field, and the size by which bounds measure
it: characters of a text, the value of a number, items of an array, kilobytes of
a file.
-/

namespace FormRules

/-! ## Units -/

inductive SizeUnit where
  | characters
  | items
  | kilobytes
deriving DecidableEq, Repr

def SizeUnit.text : SizeUnit → String
  | .characters => "characters"
  | .items => "items"
  | .kilobytes => "kilobytes"

namespace BaseType

/-- What sizes count for a type; numbers have no unit, and some types no size. -/
def unit? : BaseType → Option SizeUnit
  | .string => some .characters
  | .array => some .items
  | .file => some .kilobytes
  | .number | .boolean | .date => none

def measure? : BaseType → Json → Option Binary64
  | .string, .string s => some (Binary64.ofNat s.length)
  | .number, .number n => some n.toBinary64
  | .array, .array items => some (Binary64.ofNat items.length)
  | .file, value => (FileHandle.ofJson? value).bind FileHandle.kilobytes?
  | _, _ => none

/-! ## Types -/

def admits : BaseType → Json → Bool
  | .string, .string _ => true
  | .number, .number _ => true
  | .boolean, .bool _ => true
  | .array, .array _ => true
  | .date, .string s => (Calendar.parse? s).isSome
  | .file, value => (FileHandle.ofJson? value).isSome
  | _, _ => false

end BaseType

/-! ## Lists of allowed values -/

/-- The text by which a value is compared with the allowed ones; arrays and objects have none. -/
def Json.plainText? : Json → Option String
  | .string s => some s
  | .number n => some (String.ofList n.text)
  | .bool true => some "true"
  | .bool false => some "false"
  | _ => none

def Json.isOneOf (value : Json) (texts : List String) : Bool :=
  match value.plainText? with
  | some s => texts.contains s
  | none => false

end FormRules
