import FormRules.Json.Value

/-!
# JSON texts

The compact text of a value and the indented one with two spaces a level.
A string stands between double quotes; inside, quotes, backslashes and control
characters are escaped and every other character stands for itself.
-/

namespace FormRules.Quoted

/-! ## Quoted strings -/

def hexDigit (n : Nat) : Char :=
  if n % 16 < 10 then Char.ofNat (48 + n % 16) else Char.ofNat (87 + n % 16)

def escape (c : Char) : List Char :=
  if c = '"' then ['\\', '"']
  else if c = '\\' then ['\\', '\\']
  else if c = '\n' then ['\\', 'n']
  else if c = '\r' then ['\\', 'r']
  else if c = '\t' then ['\\', 't']
  else if c.toNat = 8 then ['\\', 'b']
  else if c.toNat = 12 then ['\\', 'f']
  else if c.toNat < 32 then
    ['\\', 'u', '0', '0', hexDigit (c.toNat / 16), hexDigit c.toNat]
  else [c]

/-- The characters of a quoted string after its opening quote. -/
def body : List Char → List Char
  | [] => ['"']
  | c :: cs => escape c ++ body cs

def encode (cs : List Char) : List Char :=
  '"' :: body cs

end FormRules.Quoted

namespace FormRules.Json

/-! ## Compact -/

mutual

def compact : Json → List Char
  | .null => ['n', 'u', 'l', 'l']
  | .bool true => ['t', 'r', 'u', 'e']
  | .bool false => ['f', 'a', 'l', 's', 'e']
  | .number n => n.text
  | .string s => Quoted.encode s.toList
  | .array items => '[' :: compactItems items
  | .object members => '{' :: compactMembers members

def compactItems : List Json → List Char
  | [] => [']']
  | [x] => compact x ++ [']']
  | x :: y :: rest => compact x ++ ',' :: compactItems (y :: rest)

def compactMembers : List (String × Json) → List Char
  | [] => ['}']
  | [(key, x)] => Quoted.encode key.toList ++ ':' :: compact x ++ ['}']
  | (key, x) :: y :: rest =>
    Quoted.encode key.toList ++ ':' :: compact x ++ ',' :: compactMembers (y :: rest)

end

def text (value : Json) : String :=
  String.ofList value.compact

/-! ## Indented -/

def newline (level : Nat) : List Char :=
  '\n' :: List.replicate (2 * level) ' '

mutual

/-- The text of a value with one item or member a line, indented by its level. -/
def indented (level : Nat) : Json → List Char
  | .array [] => ['[', ']']
  | .array (x :: rest) => '[' :: indentedItems (level + 1) (x :: rest) ++ newline level ++ [']']
  | .object [] => ['{', '}']
  | .object (x :: rest) =>
    '{' :: indentedMembers (level + 1) (x :: rest) ++ newline level ++ ['}']
  | .null => compact .null
  | .bool b => compact (.bool b)
  | .number n => compact (.number n)
  | .string s => compact (.string s)

def indentedItems (level : Nat) : List Json → List Char
  | [] => []
  | [x] => newline level ++ indented level x
  | x :: y :: rest => newline level ++ indented level x ++ ',' :: indentedItems level (y :: rest)

def indentedMembers (level : Nat) : List (String × Json) → List Char
  | [] => []
  | [(key, x)] => newline level ++ Quoted.encode key.toList ++ ':' :: ' ' :: indented level x
  | (key, x) :: y :: rest =>
    newline level ++ Quoted.encode key.toList ++ ':' :: ' ' :: indented level x ++
      ',' :: indentedMembers level (y :: rest)

end

def prettyText (value : Json) : String :=
  String.ofList (value.indented 0)

end FormRules.Json
