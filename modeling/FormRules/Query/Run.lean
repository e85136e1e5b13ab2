import FormRules.Query.Eval
import FormRules.Query.Scope

/-!
# Filters on JSON values

A filter text is read, its names are looked up, and it is run; the outputs are
JSON values.
-/

namespace FormRules.Query

inductive Stage where
  | parse
  | undefined
  /-- An output is a fault. -/
  | runtime
  /-- An output has no JSON value. -/
  | output
deriving DecidableEq, Repr

def Scope.initial : Scope :=
  { filters := derived.map fun d => (d.1, d.2.1.length), values := [], labels := [] }

def depthLimit : Nat := 100000

/-- The outputs of a filter as JSON values, up to the first one that is none. -/
def jsonOutputs : Yield Place → Except Stage (List Json)
  | .done => .ok []
  | .next (.error _) _ => .error .runtime
  | .next (.ok p) rest =>
    match p.value.toJson? with
    | none => .error .output
    | some v => (jsonOutputs (rest ())).map (v :: ·)

def run (filter : String) (input : Json) : Except Stage (List Json) :=
  match Term.ofText? filter with
  | none => .error .parse
  | some t =>
    if t.isClosed .initial then
      jsonOutputs (eval depthLimit .initial t (.free (.ofJson input)))
    else .error .undefined

end FormRules.Query
