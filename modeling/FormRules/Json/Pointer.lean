import FormRules.Json.Value
import FormRules.Text.Blank
import FormRules.Text.Pieces

/-!
# JSON pointers

A pointer is a text that selects a part of a value.  The empty text selects the
whole value; any other pointer starts with a slash, and each slash starts the
name of a member or the position of an item.  In a name `~1` stands for a slash
and `~0` for a tilde.
-/

namespace FormRules.Json.Pointer

open Text

def replacePair (first second into : Char) : List Char → List Char
  | [] => []
  | [c] => [c]
  | c :: d :: rest =>
    if c = first ∧ d = second then into :: replacePair first second into rest
    else c :: replacePair first second into (d :: rest)

/-- The name that a step stands for: slashes are restored before tildes. -/
def unescape (step : List Char) : List Char :=
  replacePair '~' '0' '~' (replacePair '~' '1' '/' step)

/-- The position that a step stands for: digits without a sign or a leading zero. -/
def position? (step : List Char) : Option Nat :=
  match step with
  | [] => none
  | ['0'] => some 0
  | c :: cs =>
    if c ≠ '0' && (c :: cs).all isAsciiDigit then
      some ((c :: cs).foldl (fun n d => 10 * n + digitValue d) 0)
    else none

def step? (value : Json) (step : List Char) : Option Json :=
  match value with
  | .object members => Entries.get? (String.ofList step) members
  | .array items => (position? step).bind fun i => items[i]?
  | _ => none

def walk? : Json → List (List Char) → Option Json
  | value, [] => some value
  | value, step :: rest => (step? value step).bind fun part => walk? part rest

@[simp] theorem walk?_nil (value : Json) : walk? value [] = some value := by
  simp [walk?]

def select? (pointer : String) (value : Json) : Option Json :=
  match pointer.toList with
  | [] => some value
  | '/' :: steps => walk? value ((pieces '/' steps).map unescape)
  | _ => none

end FormRules.Json.Pointer
