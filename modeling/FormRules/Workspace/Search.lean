import FormRules.Workspace.Basic
import FormRules.Workspace.Wildcard

/-!
# Searching a workspace

The paths that a wildcard path finds, in the order of a walk that goes through
each folder by ascending names.
-/

namespace FormRules

/-- Whether a path is another way to write the place where paths start. -/
def Path.isHere (path : String) : Bool :=
  match Path.names path with
  | "." :: rest => rest.all Path.isIdle
  | _ => false

/-- The path of a name in a folder; at the start the name is the path. -/
def Path.child (folder name : String) : String :=
  if Path.isHere folder then name else Path.join folder name

def Path.lastName (path : String) : String :=
  (Path.names path).getLast?.getD ""

namespace Workspace

/-! ## Folders -/

def namesIn (w : Workspace) (folder : Location) : List String :=
  let places := w.files.map Prod.fst ++ w.folders
  let found := places.filterMap fun place =>
    if place.isBelow folder then place[folder.length]? else none
  found.eraseDups.mergeSort fun a b => decide (a ≤ b)

def children (w : Workspace) (folder : String) : List String :=
  match w.locate folder with
  | .ok here => if w.isFolder here then (w.namesIn here).map (Path.child folder) else []
  | .error _ => []

def depth (w : Workspace) : Nat :=
  (w.files.map Prod.fst ++ w.folders).foldl (fun n place => max n (place.length + 1)) 1

/-- All paths below a folder, down to a depth, each folder before what is in it. -/
def below (w : Workspace) : Nat → String → List String
  | 0, _ => []
  | n + 1, folder => (w.children folder).flatMap fun path => path :: w.below n path

/-! ## Searching -/

/-- The special names of a folder that a name with a leading dot may stand for. -/
def specialNames (pieces : List Wildcard.Piece) : List String :=
  if pieces.head? = some (.char '.') then
    ["..", "."].filter fun name => Wildcard.accepts pieces name.toList
  else []

/-- The paths that names lead to from a path. -/
def walk (w : Workspace) (foldersOnly : Bool) : List Wildcard.Step → String → List String
  | [], path => if !foldersOnly || w.hasFolder path then [path] else []
  | .name name :: rest, path =>
    let next := Path.child path name
    let there := if name = "." || name = ".." then w.hasFolder path else w.has next
    if there then w.walk foldersOnly rest next else []
  | .wild pieces :: rest, path =>
    if w.hasFolder path then
      (specialNames pieces).flatMap (fun name => w.walk foldersOnly rest (Path.join path name)) ++
        (w.children path).flatMap fun next =>
          if Wildcard.accepts pieces (Path.lastName next).toList then
            w.walk foldersOnly rest next
          else []
    else []
  | [.anyDepth], path => (w.below w.depth path).filter w.hasFolder
  | .anyDepth :: step :: rest, path =>
    (w.below w.depth path).flatMap fun next =>
      if step.fits (Path.lastName next) then w.walk foldersOnly rest next else []

def find (w : Workspace) (wildcard : Wildcard) : List String :=
  w.walk wildcard.foldersOnly wildcard.steps (if wildcard.rooted then "/" else ".")

end Workspace

end FormRules
