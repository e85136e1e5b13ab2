import FormRules.Query.Builtin
import FormRules.Query.Syntax

/-!
# Names of filters

Whether every name in a filter has a meaning: filters by name and number of
arguments, variables and labels by name.
-/

namespace FormRules.Query

structure Scope where
  filters : List (String × Nat)
  values : List String
  labels : List String

namespace Scope

def hasFilter (s : Scope) (name : String) (arity : Nat) : Bool :=
  s.filters.contains (name, arity) || Builtin.isBasic name arity

def withFilter (s : Scope) (name : String) (arity : Nat) : Scope :=
  { s with filters := (name, arity) :: s.filters }

def withVariables (s : Scope) (names : List String) : Scope :=
  { s with values := names ++ s.values }

def withLabel (s : Scope) (name : String) : Scope :=
  { s with labels := name :: s.labels }

def withParam (s : Scope) (p : Param) : Scope :=
  if p.isValue then s.withVariables [p.name] else s.withFilter p.name 0

end Scope

mutual

def Pattern.names : Pattern → List String
  | .variable name => [name]
  | .array items => Pattern.namesOfAll items
  | .object members => Pattern.namesOfMembers members

def Pattern.namesOfAll : List Pattern → List String
  | [] => []
  | p :: ps => p.names ++ Pattern.namesOfAll ps

def Pattern.namesOfMembers : List PatternMember → List String
  | [] => []
  | .mk _ p :: ms => p.names ++ Pattern.namesOfMembers ms

end

mutual

/-- Whether every name in a filter has a meaning. -/
def Term.isClosed (s : Scope) : Term → Bool
  | .identity | .descendants | .number _ => true
  | .text format parts =>
    (match format with
      | some name => s.hasFilter name 0
      | none => true) && Term.partsClosed s parts
  | .collect body => Term.optionClosed s body
  | .object entries => Term.entriesClosed s entries
  | .negate body => body.isClosed s
  | .pipe a b | .both a b | .alternative a b | .or a b | .and a b | .arithmetic _ a b
  | .compare _ a b | .assign _ a b => a.isClosed s && b.isClosed s
  | .bind source p body =>
    source.isClosed s && p.isClosed s && body.isClosed (s.withVariables p.names)
  | .label name body => body.isClosed (s.withLabel name)
  | .leave name => s.labels.contains name
  | .reduce source p start update =>
    source.isClosed s && p.isClosed s && start.isClosed s &&
      update.isClosed (s.withVariables p.names)
  | .foreach source p start update extract =>
    source.isClosed s && p.isClosed s && start.isClosed s &&
      update.isClosed (s.withVariables p.names) &&
      Term.optionClosed (s.withVariables p.names) extract
  | .branch c a b => c.isClosed s && a.isClosed s && b.isClosed s
  | .attempt body handler => body.isClosed s && Term.optionClosed s handler
  | .define name params body rest =>
    let inner := s.withFilter name params.length
    body.isClosed (params.foldl Scope.withParam inner) && rest.isClosed inner
  | .call name args => s.hasFilter name args.length && Term.allClosed s args
  | .variable name => s.values.contains name
  | .path base steps => base.isClosed s && Term.stepsClosed s steps

def Term.allClosed (s : Scope) : List Term → Bool
  | [] => true
  | t :: ts => t.isClosed s && Term.allClosed s ts

def Term.optionClosed (s : Scope) : Option Term → Bool
  | none => true
  | some t => t.isClosed s

def Term.partsClosed (s : Scope) : List TextPart → Bool
  | [] => true
  | .chars _ :: ps => Term.partsClosed s ps
  | .inserted t :: ps => t.isClosed s && Term.partsClosed s ps

def Term.entriesClosed (s : Scope) : List Entry → Bool
  | [] => true
  | .mk key value :: es =>
    key.isClosed s && Term.optionClosed s value && Term.entriesClosed s es

def Term.stepsClosed (s : Scope) : List Step → Bool
  | [] => true
  | .index key _ :: rest => key.isClosed s && Term.stepsClosed s rest
  | .range first last _ :: rest =>
    Term.optionClosed s first && Term.optionClosed s last && Term.stepsClosed s rest

def Pattern.isClosed (s : Scope) : Pattern → Bool
  | .variable _ => true
  | .array items => Pattern.allClosed s items
  | .object members => Pattern.membersClosed s members

def Pattern.allClosed (s : Scope) : List Pattern → Bool
  | [] => true
  | p :: ps => p.isClosed s && Pattern.allClosed s ps

def Pattern.membersClosed (s : Scope) : List PatternMember → Bool
  | [] => true
  | .mk key p :: ms => key.isClosed s && p.isClosed s && Pattern.membersClosed s ms

end

end FormRules.Query
