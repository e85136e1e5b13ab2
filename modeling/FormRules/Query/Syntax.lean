/-!
# Syntax of filters

The tree of a filter as it is written.
-/

namespace FormRules.Query

/-! ## Operators -/

inductive Arithmetic where
  | add
  | subtract
  | multiply
  | divide
  | remainder
deriving DecidableEq, Repr

def Arithmetic.sign : Arithmetic → String
  | .add => "+"
  | .subtract => "-"
  | .multiply => "*"
  | .divide => "/"
  | .remainder => "%"

inductive Comparison where
  | equal
  | unequal
  | less
  | lessOrEqual
  | greater
  | greaterOrEqual
deriving DecidableEq, Repr

inductive Assignment where
  | set
  | update
  | arithmetic (op : Arithmetic)
  /-- The old value, or the value where the old one is false or null. -/
  | alternative
deriving DecidableEq, Repr

/-! ## Filters -/

structure Param where
  name : String
  /-- Whether the parameter is a value and not a filter. -/
  isValue : Bool
deriving DecidableEq, Repr

mutual

inductive Term where
  | identity
  | descendants
  | number (text : List Char)
  | text (format : Option String) (parts : List TextPart)
  /-- All outputs of a filter in an array. -/
  | collect (body : Option Term)
  | object (entries : List Entry)
  | negate (body : Term)
  | pipe (first second : Term)
  | both (first second : Term)
  | alternative (first second : Term)
  | or (left right : Term)
  | and (left right : Term)
  | arithmetic (op : Arithmetic) (left right : Term)
  | compare (op : Comparison) (left right : Term)
  | assign (how : Assignment) (target value : Term)
  /-- Run a filter with the parts of each output of another bound to variables. -/
  | bind (source : Term) (pattern : Pattern) (body : Term)
  | label (name : String) (body : Term)
  | leave (label : String)
  | reduce (source : Term) (pattern : Pattern) (start update : Term)
  /-- As `reduce`, with an output at every step. -/
  | foreach (source : Term) (pattern : Pattern) (start update : Term) (extract : Option Term)
  | branch (condition thenCase elseCase : Term)
  | attempt (body : Term) (handler : Option Term)
  | define (name : String) (params : List Param) (body rest : Term)
  | call (name : String) (args : List Term)
  | variable (name : String)
  | path (base : Term) (steps : List Step)

inductive TextPart where
  | chars (cs : List Char)
  | inserted (body : Term)

/-- A key of an object with its value; without a value the input's member is meant. -/
inductive Entry where
  | mk (key : Term) (value : Option Term)

inductive Step where
  | index (key : Term) (isOptional : Bool)
  | range (first last : Option Term) (isOptional : Bool)

inductive Pattern where
  | variable (name : String)
  | array (items : List Pattern)
  | object (members : List PatternMember)

inductive PatternMember where
  | mk (key : Term) (pattern : Pattern)

end

def Term.plain (s : String) : Term :=
  .text none [.chars s.toList]

end FormRules.Query
