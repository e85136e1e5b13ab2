import FormRules.Json.Printer
import FormRules.Rule.Token

/-!
# Events of rule reading

Rule texts are read leniently.  What is passed over or left out leaves an event.
-/

namespace FormRules

inductive Level where
  | trace
  | debug
  | warn
deriving DecidableEq, Repr

def Level.name : Level → String
  | .trace => "trace"
  | .debug => "debug"
  | .warn => "warn"

inductive DropReason where
  | notInteger
  | noPattern
  | noDate
deriving DecidableEq, Repr

def DropReason.text : DropReason → String
  | .notInteger => "non-integer parameter"
  | .noPattern => "missing pattern"
  | .noDate => "missing date"

inductive Event where
  | descriptorSkipped
  | atomSkipped (value : Json)
  | specificationUnsupported (value : Json)
  | ruleSetUnsupported (value : Json)
  | ruleUnmapped (field name : String)
  | constraintDropped (field rule : String) (reason : DropReason)
  | ruleSetNormalized (fields : Nat)

namespace Event

/-- The level of an event. -/
def level : Event → Level
  | .descriptorSkipped => .trace
  | .atomSkipped _ => .trace
  | .specificationUnsupported _ => .debug
  | .ruleSetUnsupported _ => .debug
  | .ruleUnmapped _ _ => .trace
  | .constraintDropped _ _ _ => .warn
  | .ruleSetNormalized _ => .debug

def message : Event → String
  | .descriptorSkipped => "rule object has no textual form; skipped"
  | .atomSkipped _ => "non-rule atom skipped"
  | .specificationUnsupported _ => "unsupported rule specification; treated as empty"
  | .ruleSetUnsupported _ => "rule set is not an object; treated as empty"
  | .ruleUnmapped _ _ => "unmapped rule ignored"
  | .constraintDropped _ _ _ => "constraint dropped"
  | .ruleSetNormalized _ => "rule set normalized"

def details : Event → List (String × String)
  | .descriptorSkipped => []
  | .atomSkipped value => [("value", value.text)]
  | .specificationUnsupported value => [("value", value.text)]
  | .ruleSetUnsupported value => [("value", value.text)]
  | .ruleUnmapped field name => [("field", field), ("rule", name)]
  | .constraintDropped field rule reason =>
    [("field", field), ("rule", rule), ("reason", reason.text)]
  | .ruleSetNormalized fields => [("fields", String.ofList (Decimal.digits fields))]

end Event

end FormRules
