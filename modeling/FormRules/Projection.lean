import FormRules.Declaration
import FormRules.Rule.Normal
import FormRules.Schema.Basic

/-!
# Projections

One rule specification has two faces: the schema that checks records, and the
interface that tells their shape.
-/

namespace FormRules

structure Projection where
  rules : RuleSet
  schema : Schema
  declaration : String

def RawRuleSet.project (now : DateTime) (raw : RawRuleSet) (name : String) :
    Except ClockOverflow Projection := do
  let rules := raw.normalize
  let schema ← Schema.compile now rules
  return { rules, schema, declaration := Declaration.text name rules }

end FormRules
