import FormRules.Json.Value
import FormRules.Numeric.Decimal
import FormRules.Text.Pieces
import FormRules.Text.Tables.Visible

/-!
# Faults of JSON texts

What can be wrong with a JSON text or with the shape of the value it holds,
where in the text the fault was found, and under which path of the value.
A text that a message quotes stands between double quotes, and every character that
a reader could not see or tell apart is written as an escape.
-/

namespace FormRules.Text

/-! ## Quotations -/

def hexDigits (n : Nat) : List Char :=
  (Nat.toDigits 16 n)

def quotedChar (c : Char) : List Char :=
  if c.toNat = 0 then ['\\', '0']
  else if c = '\t' then ['\\', 't']
  else if c = '\r' then ['\\', 'r']
  else if c = '\n' then ['\\', 'n']
  else if c = '"' then ['\\', '"']
  else if c = '\\' then ['\\', '\\']
  else if extender.contains c.toNat || invisible.contains c.toNat then
    ['\\', 'u', '{'] ++ hexDigits c.toNat ++ ['}']
  else [c]

/-- A text between double quotes. -/
def quotation (s : String) : String :=
  String.ofList ('"' :: s.toList.flatMap quotedChar ++ ['"'])

end FormRules.Text

namespace FormRules.Json

/-! ## Causes -/

inductive Found where
  | null
  | bool (value : Bool)
  | number (value : Number)
  | string (value : String)
  | sequence
  | map

/-- The shape of a value, as far as a message tells it. -/
def Found.ofValue : Json → Found
  | .null => .null
  | .bool b => .bool b
  | .number n => .number n
  | .string s => .string s
  | .array _ => .sequence
  | .object _ => .map

/-- A name between grave accents. -/
def accented (name : String) : String :=
  "\x60" ++ name ++ "\x60"

def Found.describe : Found → String
  | .null => "null"
  | .bool true => "boolean " ++ accented "true"
  | .bool false => "boolean " ++ accented "false"
  | .number (.int i h) => "integer " ++ accented (String.ofList (Number.int i h).text)
  | .number (.float x) => "floating point " ++ accented (String.ofList (Number.float x).text)
  | .string s => "string " ++ Text.quotation s
  | .sequence => "sequence"
  | .map => "map"

inductive Fault where
  | eofInValue
  | eofInString
  | eofInList
  | eofInObject
  | colonWanted
  | listCommaWanted
  | objectCommaWanted
  | wordWanted
  | valueWanted
  | badEscape
  | badNumber
  | numberOutOfRange
  | keyNotString
  | controlCharacter
  | trailingComma
  | trailingCharacters
  | loneSurrogate
  | hexEscapeEnds
  | tooDeep
  | wrongType (found : Found) (wanted : String)
  /-- A value of the right type that is out of bounds. -/
  | wrongValue (found : Found) (wanted : String)
  | unknownVariant (name : String) (known : List String)
  | missingField (name : String)
  | duplicateField (name : String)
  | wrongLength (count : Nat) (wanted : String)

/-- The known names in a message about an unknown one. -/
def Fault.alternatives : List String → String
  | [] => "there are no variants"
  | [a] => "expected " ++ accented a
  | [a, b] => "expected " ++ accented a ++ " or " ++ accented b
  | names => "expected one of " ++ Text.joinTexts ", " (names.map accented)

def Fault.message : Fault → String
  | .eofInValue => "EOF while parsing a value"
  | .eofInString => "EOF while parsing a string"
  | .eofInList => "EOF while parsing a list"
  | .eofInObject => "EOF while parsing an object"
  | .colonWanted => "expected " ++ accented ":"
  | .listCommaWanted => "expected " ++ accented "," ++ " or " ++ accented "]"
  | .objectCommaWanted => "expected " ++ accented "," ++ " or " ++ accented "\x7d"
  | .wordWanted => "expected ident"
  | .valueWanted => "expected value"
  | .badEscape => "invalid escape"
  | .badNumber => "invalid number"
  | .numberOutOfRange => "number out of range"
  | .keyNotString => "key must be a string"
  | .controlCharacter => "control character (\\u0000-\\u001F) found while parsing a string"
  | .trailingComma => "trailing comma"
  | .trailingCharacters => "trailing characters"
  | .loneSurrogate => "lone leading surrogate in hex escape"
  | .hexEscapeEnds => "unexpected end of hex escape"
  | .tooDeep => "recursion limit exceeded"
  | .wrongType found wanted => "invalid type: " ++ found.describe ++ ", expected " ++ wanted
  | .wrongValue found wanted => "invalid value: " ++ found.describe ++ ", expected " ++ wanted
  | .unknownVariant name known =>
    "unknown variant " ++ accented name ++ ", " ++ Fault.alternatives known
  | .missingField name => "missing field " ++ accented name
  | .duplicateField name => "duplicate field " ++ accented name
  | .wrongLength count wanted =>
    "invalid length " ++ String.ofList (Decimal.digits count) ++ ", expected " ++ wanted

/-! ## Places -/

/-- A place in a text: the line from one on, and the bytes before the place on that line. -/
structure Position where
  line : Nat
  column : Nat
deriving DecidableEq, Repr

inductive Segment where
  | item (index : Nat)
  | member (key : String)
  /-- A member whose key could not be read. -/
  | unread
deriving DecidableEq

/-- A path from the root of a value; the root's own path is a dot. -/
def pathText (path : List Segment) : String :=
  if path.isEmpty then "." else String.ofList (go true path)
where
  /-- Members after the first segment follow a dot. -/
  go (first : Bool) : List Segment → List Char
    | [] => []
    | .item i :: rest => '[' :: Decimal.digits i ++ ']' :: go false rest
    | .member key :: rest => dot first ++ key.toList ++ go false rest
    | .unread :: rest => dot first ++ '?' :: go false rest
  dot (first : Bool) : List Char := if first then [] else ['.']

structure DecodeError where
  path : List Segment
  fault : Fault
  position : Position

def DecodeError.description (e : DecodeError) : String :=
  e.fault.message ++ " at line " ++ String.ofList (Decimal.digits e.position.line) ++
    " column " ++ String.ofList (Decimal.digits e.position.column)

def DecodeError.message (e : DecodeError) : String :=
  "at JSON path " ++ pathText e.path ++ " → " ++ e.description

end FormRules.Json
