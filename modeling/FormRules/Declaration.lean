import FormRules.Field.Rule
import FormRules.Json.Printer
import FormRules.Text.Blank
import FormRules.Text.Pieces

/-!
# Interface declarations

The TypeScript interface of a rule set: one property a field, in order, with a
question mark where the field may be missing.  Only the type and whether a field
is required show; two spaces indent, and no line break ends the text.
-/

namespace FormRules.Declaration

open Text

def defaultName : String := "FormData"

def typeName : BaseType → String
  | .string => "string"
  | .number => "number"
  | .boolean => "boolean"
  | .date => "Date | string"
  | .array => "any[]"
  | .file => "File"

def startsIdentifier (c : Char) : Bool :=
  isAsciiLetter c || c = '_' || c = '$'

def inIdentifier (c : Char) : Bool :=
  startsIdentifier c || isAsciiDigit c

def isIdentifier : List Char → Bool
  | [] => false
  | c :: cs => startsIdentifier c && cs.all inIdentifier

/-- The key of a property: an identifier as it stands, anything else quoted. -/
def key (field : List Char) : List Char :=
  if isIdentifier field then field else Quoted.encode field

def property (field : String) (rule : FieldRule) : List Char :=
  [' ', ' '] ++ key field.toList ++ (if rule.required then [] else ['?']) ++ [':', ' '] ++
    (typeName rule.base).toList ++ [';']

def lines (name : String) (rules : RuleSet) : List (List Char) :=
  ("export interface ".toList ++ name.toList ++ [' ', '{']) ::
    rules.entries.map (fun e => property e.1 e.2) ++ [['}']]

def chars (name : String) (rules : RuleSet) : List Char :=
  joinWith ['\n'] (lines name rules)

def text (name : String) (rules : RuleSet) : String :=
  String.ofList (chars name rules)

/-- Put a declaration behind a text, with an empty line between them unless the text is empty. -/
def appendTo (written : List Char) (name : String) (rules : RuleSet) : List Char :=
  (if written.isEmpty then [] else written ++ ['\n', '\n']) ++ chars name rules

def blocks (declarations : List (String × RuleSet)) : String :=
  String.ofList (declarations.foldl (fun written d => appendTo written d.1 d.2) [])

end FormRules.Declaration
