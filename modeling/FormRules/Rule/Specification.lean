import FormRules.Json.Value
import FormRules.Rule.Event
import FormRules.Text.Pieces

/-!
# Rule specifications

The rules of one field as they are declared: one text whose atoms bars divide,
or a list of atoms.  Either form gives the same tokens for the same atoms.

A descriptor is a rule that a program built instead of writing it as text.  All that
matters of it is the rule text it renders to; some have none.
-/

namespace FormRules

/-! ## Descriptors -/

inductive Descriptor where
  | unique (table : String) (column : Option String) (ignored : Option (String × String))
  | existing (table : String) (column : Option String)
  | oneOf (values : List String)
  | pattern (text : String)
  /-- An object from a rule file, whose member `rule` may hold rule text. -/
  | record (members : List (String × Json))
  /-- A rule of any other kind, of which only its text is known, if it has one. -/
  | other (text : Option String)

namespace Descriptor

def render : Descriptor → Option String
  | .unique table none none => some ("unique:" ++ table)
  | .unique table (some column) none => some ("unique:" ++ table ++ "," ++ column)
  | .unique table none (some (id, idColumn)) =>
    some ("unique:" ++ table ++ ",NULL," ++ id ++ "," ++ idColumn)
  | .unique table (some column) (some (id, idColumn)) =>
    some ("unique:" ++ table ++ "," ++ column ++ "," ++ id ++ "," ++ idColumn)
  | .existing table none => some ("exists:" ++ table)
  | .existing table (some column) => some ("exists:" ++ table ++ "," ++ column)
  -- An empty parameter text would read as one value, the empty one.
  | .oneOf [] => none
  | .oneOf values => some ("in:" ++ Text.joinTexts "," values)
  | .pattern text => some ("regex:" ++ text)
  | .record members =>
    match Entries.get? "rule" members with
    | some (.string text) => some text
    | _ => none
  | .other text => text

end Descriptor

/-! ## Atoms -/

inductive RuleAtom where
  | text (atom : String)
  | descriptor (d : Descriptor)

namespace RuleAtom

def render : RuleAtom → Option String
  | .text atom => some atom
  | .descriptor d => d.render

def token? (atom : RuleAtom) : Option RuleToken :=
  atom.render.bind RuleToken.parse?

def events (atom : RuleAtom) : List Event :=
  match atom.render with
  | some _ => []
  | none => [.descriptorSkipped]

/-- The atom in an item of a list: a text, or an object that may hold one. -/
def ofJson? : Json → Option RuleAtom
  | .string s => some (.text s)
  | .object members => some (.descriptor (.record members))
  | _ => none

end RuleAtom

/-! ## Specifications -/

inductive RuleSpec where
  | pipe (text : String)
  | list (atoms : List RuleAtom)

namespace RuleSpec

/-- The atoms: the pieces between bars, or the items of the list. -/
def atoms : RuleSpec → List RuleAtom
  | .pipe text => (Text.piecesOf '|' text).map .text
  | .list atoms => atoms

def tokens (spec : RuleSpec) : List RuleToken :=
  spec.atoms.filterMap RuleAtom.token?

def events (spec : RuleSpec) : List Event :=
  spec.atoms.flatMap RuleAtom.events

/-- Read a specification leniently: what is neither text nor a list is an empty list. -/
def ofJson : Json → RuleSpec
  | .string s => .pipe s
  | .array items => .list (items.filterMap RuleAtom.ofJson?)
  | _ => .list []

def jsonEvents : Json → List Event
  | .string _ => []
  | .array items =>
    items.flatMap fun item => if (RuleAtom.ofJson? item).isSome then [] else [.atomSkipped item]
  | other => [.specificationUnsupported other]

end RuleSpec

/-! ## Raw rule sets -/

abbrev RawRuleSet := OrderedMap RuleSpec

namespace RawRuleSet

/-- Read a raw rule set leniently: what is no object is an empty set. -/
def ofJson : Json → RawRuleSet
  | .object members => OrderedMap.ofList (members.map fun m => (m.1, RuleSpec.ofJson m.2))
  | _ => OrderedMap.empty

def jsonEvents : Json → List Event
  | .object members => members.flatMap fun m => RuleSpec.jsonEvents m.2
  | other => [.ruleSetUnsupported other]

end RawRuleSet

end FormRules
