import FormRules.Command.Report
import FormRules.Command.Source
import FormRules.Json.Printer
import FormRules.Payload

/-!
# Running a command

A command reads a workspace and shows lines or writes a file.  Whatever can fail
while the rules are read fails before anything is shown or written; a check shows
the reports of all files before the first one that cannot be read.
-/

namespace FormRules.Command

structure Result where
  lines : List Line
  warnings : List CompileIssue
  workspace : Workspace
  /-- Whether all records are valid, or why the run failed. -/
  verdict : Except Failure Bool

namespace Result

def failed (w : Workspace) (failure : Failure) : Result :=
  { lines := [], warnings := [], workspace := w, verdict := .error failure }

/-- The exit code: invalid records are told from failures. -/
def exitCode (r : Result) : Nat :=
  match r.verdict with
  | .ok true => 0
  | .ok false => 1
  | .error _ => 2

end Result

/-! ## Output -/

def prepare (w : Workspace) (path : String) : Workspace × Option Failure :=
  let folder := Path.parent path
  if folder = "" then (w, none)
  else
    let (made, obstacle) := w.makeFolders folder
    (made, obstacle.map (.createFolder folder))

/-- Write a text to the file at a path.  The folders that are made on the way stay if that fails. -/
def save (w : Workspace) (path text : String) : Workspace × Option Failure :=
  let (made, failure) := prepare w path
  match failure with
  | some failure => (made, some failure)
  | none =>
    match made.write path text with
    | .ok written => (written, none)
    | .error obstacle => (made, some (.write path obstacle))

def emit (w : Workspace) (out : Option String) (text : String) : Result :=
  match out with
  | none => { lines := [.plain text], warnings := [], workspace := w, verdict := .ok true }
  | some path =>
    let (left, failure) := save w path text
    { lines := [], warnings := [], workspace := left
      verdict :=
        match failure with
        | some f => .error f
        | none => .ok true }

/-! ## Rules and declarations -/

/-- The document of rules: the rules themselves, or the payload of an action, which is null
if the action needs no rules. -/
def rulesDocument (rules : RuleSet) : Option String → Json
  | none => rules.toJson
  | some action =>
    match validationAction? action with
    | some method => (Payload.new rules method action).toJson
    | none => .null

/-! ## Checks -/

/-- Check the records of data files up to the first file that cannot be read. -/
def checkFiles (w : Workspace) (schema : Schema) (lineByLine : Bool) :
    List String → List RecordReport × Option Failure
  | [] => ([], none)
  | path :: rest =>
    match loadRecords w lineByLine path with
    | .error failure => ([], some failure)
    | .ok records =>
      let (later, failure) := checkFiles w schema lineByLine rest
      (recordReports schema path 0 records ++ later, failure)

def checkAll (w : Workspace) (schema : Schema) (data : List String) (lineByLine : Bool) : Result :=
  match resolveAll w data with
  | .error failure => { Result.failed w failure with warnings := schema.issues }
  | .ok paths =>
    let (reports, failure) := checkFiles w schema lineByLine paths
    { lines := reports.flatMap RecordReport.lines
      warnings := schema.issues
      workspace := w
      verdict :=
        match failure with
        | some f => .error f
        | none => .ok (reports.all fun r => r.validation.ok) }

/-! ## Runs -/

/-- Run a command in a workspace; the clock is for checks that are given no date. -/
def run (now : DateTime) (w : Workspace) (command : Command) : Result :=
  match loadRules w command.selection with
  | .error failure => .failed w failure
  | .ok rules =>
    match command with
    | .ir _ action out => emit w out (rulesDocument rules action).prettyText
    | .types _ name out => emit w out (Declaration.text name rules)
    | .check _ data lineByLine today =>
      match Schema.compile ((today.map DateTime.midnight).getD now) rules with
      | .error _ => .failed w .clock
      | .ok schema => checkAll w schema data lineByLine

end FormRules.Command
