import FormRules.Schema.Basic

/-!
# Reports

What a command shows: texts of its own, and for each record that was checked a
mark with a label, followed by what is wrong in each field.
-/

namespace FormRules.Command

/-! ## Lines -/

inductive Line where
  | plain (text : String)
  | mark (valid : Bool) (label : String)
  | complaint (field message : String)
deriving DecidableEq, Repr

structure RecordReport where
  /-- The file and the position of the record in it, counted from zero. -/
  label : String
  validation : Validation

def RecordReport.lines (r : RecordReport) : List Line :=
  .mark r.validation.ok r.label ::
    r.validation.errors.entries.map fun e => .complaint e.1 e.2.message

def recordLabel (path : String) (index : Nat) : String :=
  path ++ "#" ++ toString index

def recordReports (schema : Schema) (path : String) : Nat → List Json → List RecordReport
  | _, [] => []
  | index, record :: rest =>
    ⟨recordLabel path index, schema.validate record⟩ ::
      recordReports schema path (index + 1) rest

/-! ## Colours -/

def resetCode : List Char := "\x1b[0m".toList

/-- A text with a style's sequence after each end of a style within it. -/
def restyled (style : List Char) : List Char → List Char
  | [] => []
  | c :: cs =>
    if resetCode.isPrefixOf (c :: cs) then
      resetCode ++ style ++ restyled style (cs.drop (resetCode.length - 1))
    else c :: restyled style cs
termination_by cs => cs.length
decreasing_by
  · simp only [List.length_drop, List.length_cons]
    omega
  · simp

/-- A text in a style; without colours the text itself. -/
def styled (colour : Bool) (codes : String) (text : String) : String :=
  if colour then
    let style := ("\x1b[" ++ codes ++ "m").toList
    String.ofList (style ++ restyled style text.toList ++ resetCode)
  else text

def Line.text (colour : Bool) : Line → String
  | .plain text => text
  | .mark true label => styled colour "32" "✔" ++ " " ++ label
  | .mark false label => styled colour "31" "✘" ++ " " ++ label
  | .complaint field message => "    " ++ styled colour "1" field ++ ": " ++ message

def linesText (colour : Bool) (lines : List Line) : String :=
  String.join (lines.map fun l => l.text colour ++ "\n")

def warningText (colour : Bool) (issue : CompileIssue) : String :=
  styled colour "1;33" "warning:" ++ " " ++ issue.message

end FormRules.Command
