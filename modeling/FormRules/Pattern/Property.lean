import FormRules.Pattern.CharSet
import FormRules.Pattern.Tables.Binary
import FormRules.Pattern.Tables.Category
import FormRules.Pattern.Tables.LetterCase
import FormRules.Pattern.Tables.Script
import FormRules.Pattern.Tables.ScriptExtension
import FormRules.Pattern.Tables.Word
import FormRules.Text.Blank

/-!
# Properties of characters

The classes of characters that a pattern can name, and the closing of a set
under differences of letter case.
-/

namespace FormRules.Pattern

/-! ## Shorthand classes -/

def CharSet.word : CharSet := .ofTable wordTable

def CharSet.digit : CharSet := .ofTable digitTable

def CharSet.blank : CharSet :=
  ⟨[(9, 13), (0x20, 0x20), (0x85, 0x85), (0xA0, 0xA0), (0x1680, 0x1680), (0x2000, 0x200A),
    (0x2028, 0x2029), (0x202F, 0x202F), (0x205F, 0x205F), (0x3000, 0x3000)]⟩

def CharSet.asciiWord : CharSet := ⟨[(48, 57), (65, 90), (95, 95), (97, 122)]⟩

def CharSet.asciiDigit : CharSet := ⟨[(48, 57)]⟩

def CharSet.asciiBlank : CharSet := ⟨[(9, 13), (32, 32)]⟩

def CharSet.posix? (name : String) : Option CharSet :=
  Option.map CharSet.mk (match name with
    | "alnum" => some [(48, 57), (65, 90), (97, 122)]
    | "alpha" => some [(65, 90), (97, 122)]
    | "ascii" => some [(0, 127)]
    | "blank" => some [(9, 9), (32, 32)]
    | "cntrl" => some [(0, 31), (127, 127)]
    | "digit" => some [(48, 57)]
    | "graph" => some [(33, 126)]
    | "lower" => some [(97, 122)]
    | "print" => some [(32, 126)]
    | "punct" => some [(33, 47), (58, 64), (91, 96), (123, 126)]
    | "space" => some [(9, 13), (32, 32)]
    | "upper" => some [(65, 90)]
    | "word" => some [(48, 57), (65, 90), (95, 95), (97, 122)]
    | "xdigit" => some [(48, 57), (65, 70), (97, 102)]
    | _ => none)

/-! ## Named properties -/

def withoutIs : List Char → Option (List Char)
  | a :: b :: rest => if (a = 'i' || a = 'I') && (b = 's' || b = 'S') then some rest else none
  | _ => none

/-- The form in which names are compared: ASCII letters in lower case, no separators, no `is`. -/
def looseName (name : List Char) : String :=
  let strip (cs : List Char) : List Char :=
    (cs.filter fun c => c.toNat < 128 && c ≠ ' ' && c ≠ '_' && c ≠ '-').map Text.lowerAscii
  match withoutIs name with
  | some rest =>
    let short := strip rest
    String.ofList (if short = ['c'] then ['i', 's', 'c'] else short)
  | none => String.ofList (strip name)

def lookup? (family : List (List String × String)) (name : String) : Option CharSet :=
  (family.find? fun row => row.1.contains name).map fun row => .ofTable (.ofText row.2)

def category? (name : String) : Option CharSet :=
  if name = "any" then some (.range 0 CharSet.maxPoint)
  else if name = "ascii" then some (.range 0 127)
  else if name = "assigned" then (lookup? categorySteps "cn").map CharSet.complement
  else lookup? categorySteps name

/-- The set of a property with a name: binary, else a general category, else a script. -/
def property? (name : List Char) : Option CharSet :=
  let n := looseName name
  let binary :=
    if n = "cf" || n = "sc" || n = "lc" then none else lookup? binarySteps n
  binary <|> category? n <|> lookup? scriptSteps n

def propertyValue? (name value : List Char) : Option CharSet :=
  let n := looseName name
  let v := looseName value
  if n = "gc" || n = "generalcategory" then category? v
  else if n = "sc" || n = "script" then lookup? scriptSteps v
  else if n = "scx" || n = "scriptextensions" then
    lookup? scriptExtensionSteps v <|> lookup? scriptSteps v
  else none

/-! ## Letter case -/

/-- Undo the steps of the table of groups. -/
def decodeOrbits : Nat → Nat → List Nat → List (List Nat)
  | 0, _, _ => []
  | fuel + 1, start, size :: step :: rest =>
    let first := start + step
    let members := first :: Text.RangeTable.running.go first (rest.take (size - 1))
    members :: decodeOrbits fuel first (rest.drop (size - 1))
  | _, _, _ => []

def caseOrbits : List (List Nat) :=
  let steps := Text.RangeTable.numbers caseSteps
  decodeOrbits steps.length 0 steps

/-- Add every character that differs from a member in case only. -/
def CharSet.foldCase (a : CharSet) : CharSet :=
  let t := a.toTable
  let more := caseOrbits.flatMap fun orbit =>
    if orbit.any t.contains then orbit.map fun n => (n, n) else []
  if more.isEmpty then a else .ofRanges (a.ranges ++ more)

def CharSet.foldAsciiCase (a : CharSet) : CharSet :=
  let t := a.toTable
  let pairs := (List.range 26).flatMap fun k =>
    if t.contains (65 + k) || t.contains (97 + k) then [(65 + k, 65 + k), (97 + k, 97 + k)] else []
  if pairs.isEmpty then a else .ofRanges (a.ranges ++ pairs)

end FormRules.Pattern
