import FormRules.Command.Basic
import FormRules.Json.Pointer
import FormRules.Json.Reader
import FormRules.Rule.Normal
import FormRules.Text.Blank
import FormRules.Text.Pieces
import FormRules.Workspace.Search

/-!
# Sources

The rules and the records that a command reads.  Rule documents are merged in
order: a field keeps the place of its first appearance and takes the rule of its
last one.  A data file holds one document, the records of which are its items if
it is an array, or one record a line.
-/

namespace FormRules

/-! ## Rule documents -/

/-- The rule set of several documents, later ones over earlier ones. -/
def RuleSet.merge (documents : List Json) : RuleSet :=
  documents.foldl (fun rules d => rules.extend (RawRuleSet.ofJson d).normalize) OrderedMap.empty

namespace Command

/-! ## Files -/

/-- The paths that a pattern stands for: a wildcard path finds some, any other is meant
literally. -/
def resolve (w : Workspace) (pattern : String) : Except Failure (List String) :=
  if Wildcard.isMeant pattern then
    match Wildcard.ofText pattern with
    | .error fault => .error (.pattern fault)
    | .ok wildcard =>
      match w.find wildcard with
      | [] => .error (.noMatch pattern)
      | paths => .ok paths
  else .ok [pattern]

def gather {α β : Type} (f : α → Except Failure (List β)) : List α → Except Failure (List β)
  | [] => .ok []
  | a :: rest => do
    let front ← f a
    return front ++ (← gather f rest)

def resolveAll (w : Workspace) (patterns : List String) : Except Failure (List String) :=
  gather (resolve w) patterns

def readText (w : Workspace) (path : String) : Except Failure String :=
  match w.read path with
  | .ok text => .ok text
  | .error obstacle => .error (.read path obstacle)

def readDocument (w : Workspace) (path : String) : Except Failure Json := do
  match Json.ofText (← readText w path) with
  | .ok value => return value
  | .error e => .error (.decode (.file path) e)

/-! ## Rules -/

def pointed (pointer : Option String) (path : String) (document : Json) : Except Failure Json :=
  match pointer with
  | none => .ok document
  | some p =>
    match Json.Pointer.select? p document with
    | some part => .ok part
    | none => .error (.missingPointer p path)

def filtered (filter : Option String) (path : String) (document : Json) :
    Except Failure (List Json) :=
  match filter with
  | none => .ok [document]
  | some f =>
    match Query.run f document with
    | .ok outputs => .ok outputs
    | .error stage => .error (.query path stage)

def documentsIn (w : Workspace) (rules : Selection) (path : String) :
    Except Failure (List Json) := do
  let document ← readDocument w path
  filtered rules.filter path (← pointed rules.pointer path document)

/-- The rule documents of a selection; all patterns are resolved before any file is read. -/
def documents (w : Workspace) (rules : Selection) : Except Failure (List Json) := do
  gather (documentsIn w rules) (← resolveAll w rules.inputs)

def loadRules (w : Workspace) (rules : Selection) : Except Failure RuleSet :=
  (documents w rules).map RuleSet.merge

/-! ## Records -/

def recordsOf : Json → List Json
  | .array items => items
  | record => [record]

/-- The records of lines, the first of which has a number; blank lines hold none. -/
def recordsOfLines (path : String) : Nat → List (List Char) → Except Failure (List Json)
  | _, [] => .ok []
  | number, line :: rest =>
    if Text.allBlank line then recordsOfLines path (number + 1) rest
    else
      match Json.ofText (String.ofList line) with
      | .error e => .error (.decode (.line path number) e)
      | .ok record => (recordsOfLines path (number + 1) rest).map (record :: ·)

def loadRecords (w : Workspace) (lineByLine : Bool) (path : String) :
    Except Failure (List Json) := do
  if lineByLine then
    recordsOfLines path 1 (Text.lines (← readText w path).toList)
  else return recordsOf (← readDocument w path)

end Command

end FormRules
