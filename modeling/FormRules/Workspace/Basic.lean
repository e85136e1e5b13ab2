import FormRules.Text.Pieces

/-!
# Workspaces

A tree of files with names for its places.  A path is a text whose names are
separated by slashes; it is followed name by name from the workspace itself, and
every place on the way has to be a folder.  Files hold a text or something that
is no text.
-/

namespace FormRules

/-! ## Locations -/

/-- A place: the names that lead to it.  The name `..` leads above the workspace
and the name `/` to the root of all places. -/
abbrev Location := List String

namespace Location

def up (here : Location) : Location :=
  match here.getLast? with
  | none => [".."]
  | some name =>
    if name = "/" then here
    else if name = ".." then here ++ [".."]
    else here.dropLast

def step (here : Location) (name : String) : Location :=
  if name = "" || name = "." then here
  else if name = ".." then here.up
  else here ++ [name]

def isAbove (here : Location) : Bool :=
  here.all fun name => name = ".." || name = "/"

def isBelow (here folder : Location) : Bool :=
  folder.isPrefixOf here && folder.length < here.length

end Location

/-! ## Paths -/

namespace Path

def names (path : String) : List String :=
  Text.piecesOf '/' path

def start (path : String) : Location :=
  if (names path).head? = some "" then ["/"] else []

def isIdle (name : String) : Bool :=
  name = "" || name = "."

/-- Names in reverse without the last ones that lead nowhere; the first name stays. -/
def settled : List String → List String
  | [] => []
  | [first] => [first]
  | name :: next :: rest => if isIdle name then settled (next :: rest) else name :: next :: rest

/-- The path of the folder that a path's last name is in; empty if that is the start. -/
def parent (path : String) : String :=
  match settled (names path).reverse with
  | [] => ""
  | [_] => ""
  | _ :: rest => Text.joinTexts "/" (settled rest).reverse

def join (path name : String) : String :=
  if path.toList.getLast? = some '/' then path ++ name else path ++ "/" ++ name

end Path

/-! ## Workspaces -/

inductive Content where
  | text (value : String)
  | binary
deriving DecidableEq

inductive Obstacle where
  | missing
  | notFolder
  | isFolder
  /-- A file stands where a folder is to be made. -/
  | taken
  | notText
deriving DecidableEq, Repr

def Obstacle.message : Obstacle → String
  | .missing => "No such file or directory (os error 2)"
  | .notFolder => "Not a directory (os error 20)"
  | .isFolder => "Is a directory (os error 21)"
  | .taken => "File exists (os error 17)"
  | .notText => "stream did not contain valid UTF-8"

/-- A tree of files.  The folders on the way to a file need no entry. -/
structure Workspace where
  files : List (Location × Content)
  folders : List Location

namespace Workspace

def content? (w : Workspace) (here : Location) : Option Content :=
  w.files.lookup here

def isFile (w : Workspace) (here : Location) : Bool :=
  (w.content? here).isSome

def isFolder (w : Workspace) (here : Location) : Bool :=
  here.isAbove || w.folders.contains here || w.files.any fun f => f.1.isBelow here

def follow (w : Workspace) : Location → List String → Except Obstacle Location
  | here, [] => .ok here
  | here, name :: rest =>
    if w.isFolder here then w.follow (here.step name) rest
    else if w.isFile here then .error .notFolder
    else .error .missing

def locate (w : Workspace) (path : String) : Except Obstacle Location :=
  if path = "" then .error .missing else w.follow (Path.start path) (Path.names path)

def hasFolder (w : Workspace) (path : String) : Bool :=
  match w.locate path with
  | .ok here => w.isFolder here
  | .error _ => false

def has (w : Workspace) (path : String) : Bool :=
  match w.locate path with
  | .ok here => w.isFolder here || w.isFile here
  | .error _ => false

/-! ## Reading -/

def readAt (w : Workspace) (here : Location) : Except Obstacle String :=
  match w.content? here with
  | some (.text s) => .ok s
  | some .binary => .error .notText
  | none => .error (if w.isFolder here then .isFolder else .missing)

def read (w : Workspace) (path : String) : Except Obstacle String :=
  (w.locate path).bind w.readAt

/-! ## Writing -/

def put (w : Workspace) (here : Location) (text : String) : Workspace :=
  { w with files := (here, .text text) :: w.files.filter fun f => f.1 ≠ here }

/-- Make the folders that names lead through, up to a file in the way.  The whole path is tried
first: only if that makes nothing can a file in its middle be told from one at its end. -/
def makeAlong (begun : Bool) : Workspace → Location → List String → Workspace × Option Obstacle
  | w, _, [] => (w, none)
  | w, here, name :: rest =>
    let next := here.step name
    if w.isFolder next then makeAlong begun w next rest
    else if w.isFile next then (w, some (if begun || rest.isEmpty then .taken else .notFolder))
    else makeAlong true { w with folders := next :: w.folders } next rest

def makeFolders (w : Workspace) (path : String) : Workspace × Option Obstacle :=
  makeAlong false w (Path.start path) (Path.names path)

def writeIn (w : Workspace) (start : Location) (folder : List String) (name text : String) :
    Except Obstacle Workspace := do
  let here ← w.follow start (folder ++ ["."])
  let there := here.step name
  if Path.isIdle name || w.isFolder there then .error .isFolder else return w.put there text

/-- Write a file; the folder has to be there, and a path that ends in a slash names no file. -/
def write (w : Workspace) (path text : String) : Except Obstacle Workspace :=
  if path = "" then .error .missing
  else
    match (Path.names path).reverse with
    | [] => .error .missing
    | "" :: rest =>
      match rest.dropWhile (· = "") with
      | [] => .error .isFolder
      | _ :: folder => w.writeIn (Path.start path) folder.reverse "" text
    | name :: folder => w.writeIn (Path.start path) folder.reverse name text

/-! ## Changes -/

/-- The texts of the files that are not the same in an earlier workspace. -/
def changesSince (after before : Workspace) : List (Location × String) :=
  after.files.filterMap fun f =>
    match f.2 with
    | .text s => if before.content? f.1 = some (.text s) then none else some (f.1, s)
    | .binary => none

end Workspace

end FormRules
