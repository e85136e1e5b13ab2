import FormRules.Calendar.DateTime
import FormRules.Json.Fault
import FormRules.Query.Run
import FormRules.Workspace.Basic
import FormRules.Workspace.Wildcard

/-!
# Commands

What the command line can ask for: the normalized rules, their interface
declaration, or a check of data against them.  A list of arguments may ask for
nothing of this, and a command may end without a result; each failure names the
path or the pattern that it is about.
-/

namespace FormRules

/-! ## Commands -/

structure Selection where
  inputs : List String
  pointer : Option String
  filter : Option String
deriving DecidableEq, Repr

inductive Command where
  | ir (rules : Selection) (action out : Option String)
  | types (rules : Selection) (name : String) (out : Option String)
  | check (rules : Selection) (data : List String) (lineByLine : Bool) (today : Option Date)

namespace Command

def selection : Command → Selection
  | .ir rules _ _ => rules
  | .types rules _ _ => rules
  | .check rules _ _ _ => rules

def patterns : Command → List String
  | .ir rules _ _ => rules.inputs
  | .types rules _ _ => rules.inputs
  | .check rules data _ _ => rules.inputs ++ data

def out : Command → Option String
  | .ir _ _ out => out
  | .types _ _ out => out
  | .check .. => none

/-! ## Usage faults -/

inductive UsageFault where
  | helpWanted
  | versionWanted
  | nothingGiven
  /-- There are options but no command. -/
  | missingCommand
  | unknownCommand
  | unknownArgument
  /-- An option lacks its value, or the value is an empty path. -/
  | missingValue
  | surplusValue
  | repeatedOption
  | badValue
  | missingOption
deriving DecidableEq, Repr

/-- The exit code: only what was asked for is no failure. -/
def UsageFault.exitCode : UsageFault → Nat
  | .helpWanted => 0
  | .versionWanted => 0
  | _ => 2

def UsageFault.message : UsageFault → String
  | .helpWanted => "usage: [-v] ir|types|check <options>"
  | .versionWanted => "version 0.1.0"
  | .nothingGiven => "a command is required"
  | .missingCommand => "a command is required"
  | .unknownCommand => "unrecognized subcommand"
  | .unknownArgument => "unexpected argument"
  | .missingValue => "a value is required for an option but none was supplied"
  | .surplusValue => "unexpected value for a flag"
  | .repeatedOption => "an option cannot be used multiple times"
  | .badValue => "invalid value for an option"
  | .missingOption => "a required option was not provided"

/-! ## Failures -/

inductive Undecoded where
  | file (path : String)
  | line (path : String) (number : Nat)
deriving DecidableEq, Repr

def Undecoded.message : Undecoded → String
  | .file path => "failed to parse JSON source file (" ++ path ++ ")"
  | .line path number => path ++ ":" ++ toString number

inductive Failure where
  | decode (text : Undecoded) (error : Json.DecodeError)
  | missingPointer (pointer path : String)
  | query (path : String) (stage : Query.Stage)
  | read (path : String) (obstacle : Obstacle)
  | pattern (fault : Wildcard.Fault)
  | noMatch (wildcard : String)
  | createFolder (path : String) (obstacle : Obstacle)
  | write (path : String) (obstacle : Obstacle)
  | clock

def Failure.message : Failure → String
  | .decode text error => text.message ++ ": " ++ error.message
  | .missingPointer pointer path =>
    "JSON pointer \x60" ++ pointer ++ "\x60 selects nothing in " ++ path
  | .query path _ => "failed to apply jq expression to " ++ path
  | .read path obstacle =>
    "failed to read " ++ path ++ ": " ++ obstacle.message ++ ": " ++ obstacle.message
  | .pattern fault => "invalid input pattern: " ++ fault.message ++ ": " ++ fault.message
  | .noMatch wildcard => "glob pattern matched no files: " ++ wildcard
  | .createFolder path obstacle => "failed to create " ++ path ++ ": " ++ obstacle.message
  | .write path obstacle => "failed to write " ++ path ++ ": " ++ obstacle.message
  | .clock => "the clock is at the end of the calendar"

end Command

end FormRules
