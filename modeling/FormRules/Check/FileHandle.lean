import FormRules.Json.Value
import FormRules.Text.Blank
import FormRules.Text.Pieces

/-!
# File handles

What a form holds of a file: an object with the file's name, and perhaps its
media type and its size in bytes.
-/

namespace FormRules

structure FileHandle where
  name : String
  mime : Option String
  bytes : Option Nat

namespace FileHandle

open Text

def imageExtensions : List String :=
  ["jpg", "jpeg", "png", "gif", "bmp", "svg", "webp"]

/-- The handle in a value: an object with a text under `name`. -/
def ofJson? (value : Json) : Option FileHandle := do
  let name ← (← value.member? "name").asString?
  return {
    name
    mime := (value.member? "type").bind Json.asString?
    bytes := (value.member? "size").bind Json.asNat? }

/-- The text behind the last dot in lower case, if there is text on both sides of the dot. -/
def extension? (f : FileHandle) : Option String :=
  match splitLast '.' f.name.toList with
  | none => none
  | some (stem, ext) =>
    if stem.isEmpty || ext.isEmpty then none else some (String.ofList (ext.map lowerAscii))

/-- Whether the file is an image, told by its media type or else by its extension. -/
def isImage (f : FileHandle) : Bool :=
  match f.mime with
  | some mime => "image/".toList.isPrefixOf mime.toList
  | none =>
    match f.extension? with
    | some ext => imageExtensions.contains ext
    | none => false

/-- The size in units of 1024 bytes. -/
def kilobytes? (f : FileHandle) : Option Binary64 :=
  f.bytes.map fun n => (Binary64.ofNat n).divNat 1024

end FileHandle

end FormRules
