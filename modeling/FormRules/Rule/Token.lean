import FormRules.Text.Blank
import FormRules.Text.Pieces

/-!
# Rule tokens

One directive of a rule text, such as `max:255`: a name and, behind a colon, a
parameter text that commas divide.  The name is trimmed and the parameter text
is kept as it stands.
-/

namespace FormRules

structure RuleToken where
  name : String
  parameters : List String
  /-- The text behind the colon; `none` if there is no colon. -/
  raw : Option String
deriving DecidableEq, Repr

namespace RuleToken

open Text

def parametersIn : Option String → List String
  | some raw => piecesOf ',' raw
  | none => []

def of (name : String) (raw : Option String) : RuleToken :=
  { name, parameters := parametersIn raw, raw }

section of

variable (name : String) (raw : Option String)

@[simp] theorem name_of : (of name raw).name = name := rfl

@[simp] theorem parameters_of : (of name raw).parameters = parametersIn raw := rfl

@[simp] theorem raw_of : (of name raw).raw = raw := rfl

end of

def parameter? (t : RuleToken) (index : Nat) : Option String :=
  t.parameters[index]?

/-- Split an atom at its first colon; without a name there is no token. -/
def ofChars? (atom : List Char) : Option RuleToken :=
  let (head, raw) := match splitFirst ':' atom with
    | some (head, raw) => (head, some (String.ofList raw))
    | none => (atom, none)
  let name := trim head
  if name.isEmpty then none else some (.of (String.ofList name) raw)

def parse? (atom : String) : Option RuleToken :=
  ofChars? atom.toList

def text (t : RuleToken) : String :=
  match t.raw with
  | some raw => t.name ++ ":" ++ raw
  | none => t.name

end RuleToken

end FormRules
