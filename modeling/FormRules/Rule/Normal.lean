import FormRules.Field.Rule
import FormRules.Numeric.Literal
import FormRules.Rule.Specification

/-!
# Normalization of rules

A field's tokens are folded into one field rule.  The type is the one set last
and text if none is set; `required` and `nullable` stay set once they are;
constraints keep the order of their tokens.  A constraint whose parameter is
malformed is left out, and a name without a meaning changes nothing.
-/

namespace FormRules

/-! ## Directives -/

inductive Directive where
  | required
  | nullable
  | ofType (base : BaseType)
  | email
  | url
  | min
  | max
  | size
  | between
  | oneOf
  | pattern
  | confirmed
  | unique
  | existing
  | after
  | before
  | image
  | mimes
deriving DecidableEq, Repr

def Directive.names : List (String × Directive) :=
  [("required", .required), ("nullable", .nullable), ("string", .ofType .string),
    ("integer", .ofType .number), ("numeric", .ofType .number), ("boolean", .ofType .boolean),
    ("date", .ofType .date), ("array", .ofType .array), ("file", .ofType .file),
    ("email", .email), ("url", .url), ("min", .min), ("max", .max), ("size", .size),
    ("between", .between), ("in", .oneOf), ("regex", .pattern), ("confirmed", .confirmed),
    ("unique", .unique), ("exists", .existing), ("after", .after), ("before", .before),
    ("image", .image), ("mimes", .mimes)]

def Directive.ofName? (name : String) : Option Directive :=
  Entries.get? name Directive.names

/-! ## Parameters -/

/-- An integer of 64 bits from a real number text: the fraction is cut off. -/
def truncatedInt64? : Literal.Real → Option Int64
  | .decimal negative significand exponent =>
    match Literal.toBinary64? negative significand exponent with
    | some x => if x.truncated < 9223372036854775808 then some (Int64.ofInt x.toInt) else none
    | none => none
  | _ => none

/-- Read a bound: an integer, or a decimal that loses its fraction, with blanks around it. -/
def parseBound? (text : String) : Option Int64 :=
  let cs := Text.trim text.toList
  match Literal.int64? cs with
  | some i => some i
  | none => (Literal.real? cs).bind truncatedInt64?

namespace RuleToken

def bound? (t : RuleToken) (index : Nat) : Option Int64 :=
  (t.parameter? index).bind parseBound?

/-- A parameter without the blanks around it, if anything is left. -/
def filled? (t : RuleToken) (index : Nat) : Option String :=
  ((t.parameter? index).map Text.trimText).filter fun p => p ≠ ""

/-- The name of a table or column; the word `null` stands for the default one. -/
def tableName? (t : RuleToken) (index : Nat) : Option String :=
  (t.filled? index).filter fun p => Text.lowerAsciiText p ≠ "null"

/-- The pattern: the whole parameter text, if it is not empty. -/
def pattern? (t : RuleToken) : Option String :=
  t.raw.filter fun p => p ≠ ""

/-! ## Events -/

def dropped (t : RuleToken) (field : String) (given : Bool) (reason : DropReason) : List Event :=
  if given then [] else [.constraintDropped field t.text reason]

def events (t : RuleToken) (field : String) : List Event :=
  match Directive.ofName? t.name with
  | none => [.ruleUnmapped field t.name]
  | some .min | some .max | some .size => t.dropped field (t.bound? 0).isSome .notInteger
  | some .between =>
    t.dropped field (t.bound? 0).isSome .notInteger ++
      t.dropped field (t.bound? 1).isSome .notInteger
  | some .pattern => t.dropped field t.pattern?.isSome .noPattern
  | some .after | some .before => t.dropped field (t.filled? 0).isSome .noDate
  | some _ => []

end RuleToken

/-! ## The fold -/

namespace FieldRule

def push {α : Type} (rule : FieldRule) (parameter : Option α) (build : α → Constraint) :
    FieldRule :=
  match parameter with
  | some a => { rule with constraints := rule.constraints ++ [build a] }
  | none => rule

/-- Apply one token. -/
def apply (field : String) (rule : FieldRule) (t : RuleToken) : FieldRule :=
  match Directive.ofName? t.name with
  | none => rule
  | some .required => { rule with required := true }
  | some .nullable => { rule with nullable := true }
  | some (.ofType base) => { rule with base := base }
  | some .email => { rule with base := .string }.push (some ()) fun _ => .email
  | some .url => { rule with base := .string }.push (some ()) fun _ => .url
  | some .min => rule.push (t.bound? 0) .min
  | some .max => rule.push (t.bound? 0) .max
  | some .size => rule.push (t.bound? 0) .size
  | some .between => (rule.push (t.bound? 0) .min).push (t.bound? 1) .max
  | some .oneOf => rule.push (some t.parameters) .oneOf
  | some .pattern => rule.push t.pattern? .pattern
  | some .confirmed => rule.push (some (field ++ "_confirmation")) .confirmed
  | some .unique => rule.push (some (t.tableName? 0, t.tableName? 1)) fun (a, b) => .unique a b
  | some .existing =>
    rule.push (some (t.tableName? 0, t.tableName? 1)) fun (a, b) => .existing a b
  | some .after => rule.push (t.filled? 0) .after
  | some .before => rule.push (t.filled? 0) .before
  | some .image => rule.push (some ()) fun _ => .image
  | some .mimes => rule.push (some t.parameters) .mimes

def ofTokens (field : String) (tokens : List RuleToken) : FieldRule :=
  tokens.foldl (apply field) {}

def applyLogged (field : String) (state : FieldRule × List Event) (t : RuleToken) :
    FieldRule × List Event :=
  (state.1.apply field t, state.2 ++ t.events field)

def ofTokensLogged (field : String) (tokens : List RuleToken) : FieldRule × List Event :=
  tokens.foldl (applyLogged field) ({}, [])

end FieldRule

/-! ## Whole specifications and sets -/

def RuleSpec.normalize (spec : RuleSpec) (field : String) : FieldRule :=
  FieldRule.ofTokens field spec.tokens

def RuleSpec.normalizeEvents (spec : RuleSpec) (field : String) : List Event :=
  spec.events ++ (FieldRule.ofTokensLogged field spec.tokens).2

def RawRuleSet.normalize (raw : RawRuleSet) : RuleSet :=
  raw.mapValues fun field spec => spec.normalize field

def RawRuleSet.normalizeEvents (raw : RawRuleSet) : List Event :=
  raw.entries.flatMap (fun e => e.2.normalizeEvents e.1) ++ [.ruleSetNormalized raw.size]

end FormRules
