import FormRules.Command.Arguments
import FormRules.Command.Run
import Std.Time.DateTime

/-!
# The command line

Looks at the files that the arguments may stand for, runs the command on what is
there and writes what the run has changed.
-/

namespace FormRules.Command

def momentAt? (nanoseconds : Int) : Option DateTime :=
  (DateTime.epoch.addSeconds? (nanoseconds / 1000000000)).bind fun t =>
    DateTime.of? t.date t.seconds (nanoseconds % 1000000000).toNat

/-! ## Looking at files -/

def namesAt (path : String) : IO (Option (List String)) := do
  try
    let entries ← ((← IO.currentDir) / path).readDir
    return some (entries.toList.map fun entry => entry.fileName)
  catch _ => return none

def contentAt (path : String) : IO (Option Content) := do
  try
    let bytes ← IO.FS.readBinFile path
    return some ((String.fromUTF8? bytes).elim .binary .text)
  catch _ => return none

abbrev Survey := StateT Workspace IO

/-- Look at a path, the way to which was looked at before. -/
def look (path : String) : Survey Unit := do
  let w ← get
  match w.locate path with
  | .error _ => return
  | .ok here =>
    if w.isFolder here || w.isFile here then return
    if (← namesAt path).isSome then set { w with folders := here :: w.folders }
    else
      match ← contentAt path with
      | some content => set { w with files := (here, content) :: w.files }
      | none => return

def lookAlong (path : String) : Survey Unit := do
  let names := Path.names path
  for count in List.range names.length do
    look (Text.joinTexts "/" (names.take (count + 1)))

def pathsIn (folder : String) : IO (List String) := do
  return ((← namesAt folder).getD []).map (Path.child folder)

def foldersFrom : Nat → String → IO (List String)
  | 0, _ => return []
  | n + 1, folder => do
    let mut found := [folder]
    for path in ← pathsIn folder do
      if (← namesAt path).isSome then found := found ++ (← foldersFrom n path)
    return found

def mostNames : Nat := 4096

/-- Look at the paths that the names of a wildcard path may lead to from a path. -/
def lookFor : List Wildcard.Step → String → Survey Unit
  | [], _ => return
  | .name name :: rest, path => do
    let next := Path.child path name
    look next
    lookFor rest next
  | .wild pieces :: rest, path => do
    for name in Workspace.specialNames pieces do
      lookFor rest (Path.join path name)
    for next in ← pathsIn path do
      if Wildcard.accepts pieces (Path.lastName next).toList then
        look next
        lookFor rest next
  | .anyDepth :: rest, path => do
    for next in ← foldersFrom mostNames path do
      look next
      lookFor rest next

def lookForPattern (pattern : String) : Survey Unit := do
  if Wildcard.isMeant pattern then
    match Wildcard.ofText pattern with
    | .ok wildcard => lookFor wildcard.steps (if wildcard.rooted then "/" else ".")
    | .error _ => return
  else lookAlong pattern

/-! ## Running -/

def pathOf (here : Location) : String :=
  match here with
  | "/" :: rest => "/" ++ Text.joinTexts "/" rest
  | _ => Text.joinTexts "/" here

def writeChanges (before after : Workspace) : IO Unit := do
  for here in after.folders do
    unless before.folders.contains here do IO.FS.createDirAll (pathOf here)
  for (here, text) in after.changesSince before do
    IO.FS.writeFile (pathOf here) text

def perform (command : Command) : IO UInt32 := do
  let nanoseconds := (← Std.Time.Timestamp.now).toNanosecondsSinceUnixEpoch.val
  let out ← IO.getStdout
  let colour ← out.isTty
  let ((), before) ← (command.patterns.forM lookForPattern).run { files := [], folders := [] }
  let ((), before) ← (command.out.toList.forM lookAlong).run before
  let result := run ((momentAt? nanoseconds).getD .epoch) before command
  for issue in result.warnings do
    IO.eprintln (warningText colour issue)
  out.putStr (linesText colour result.lines)
  writeChanges before result.workspace
  match result.verdict with
  | .ok _ => return UInt32.ofNat result.exitCode
  | .error failure =>
    IO.eprintln ("error: " ++ failure.message)
    return UInt32.ofNat result.exitCode

end FormRules.Command

def main (args : List String) : IO UInt32 := do
  match FormRules.Command.ofArguments args with
  | .ok command => FormRules.Command.perform command
  | .error fault =>
    if fault.exitCode = 0 then IO.println fault.message
    else IO.eprintln ("error: " ++ fault.message)
    return UInt32.ofNat fault.exitCode
