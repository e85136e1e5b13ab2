/-!
# Syntax of patterns

The tree of a regular expression as it is written, and how deep it nests.
-/

namespace FormRules.Pattern

/-! ## Flags -/

inductive Flag where
  | ignoreCase
  | multiLine
  | dotMatchesNewline
  | swapGreed
  | unicode
  | crlf
  | ignoreSpace
deriving DecidableEq, Repr

def Flag.ofChar? : Char → Option Flag
  | 'i' => some .ignoreCase
  | 'm' => some .multiLine
  | 's' => some .dotMatchesNewline
  | 'U' => some .swapGreed
  | 'u' => some .unicode
  | 'R' => some .crlf
  | 'x' => some .ignoreSpace
  | _ => none

abbrev FlagSettings := List (Flag × Bool)

def FlagSettings.get? (s : FlagSettings) (f : Flag) : Option Bool :=
  (s.find? fun e => e.1 = f).map Prod.snd

/-! ## Classes -/

inductive Shorthand where
  | digit
  | space
  | word
deriving DecidableEq, Repr

inductive PropertyName where
  | plain (name : List Char)
  | valued (name value : List Char)

/-- A character of a pattern; one written as two hexadecimal digits may stand for a byte. -/
structure Literal where
  char : Char
  twoDigits : Bool

inductive ClassItem where
  | literal (l : Literal)
  | range (first last : Literal)
  | posix (name : String) (negated : Bool)
  | shorthand (kind : Shorthand) (negated : Bool)
  | property (name : PropertyName) (negated : Bool)
  | nested (negated : Bool) (body : ClassItem)
  | union (items : List ClassItem)
  | intersection (left right : ClassItem)
  | difference (left right : ClassItem)
  | symmetricDifference (left right : ClassItem)

/-! ## Expressions -/

inductive Anchor where
  | lineStart
  | lineEnd
  | textStart
  | textEnd
  | wordBoundary
  | notWordBoundary
  | wordStart
  | wordEnd
  | wordStartHalf
  | wordEndHalf
deriving DecidableEq, Repr

inductive Syntax where
  | empty
  | flags (settings : FlagSettings)
  | literal (l : Literal)
  | anyChar
  | anchor (a : Anchor)
  | shorthand (kind : Shorthand) (negated : Bool)
  | property (name : PropertyName) (negated : Bool)
  | bracketed (negated : Bool) (body : ClassItem)
  | repeated (least : Nat) (most : Option Nat) (body : Syntax)
  | group (settings : FlagSettings) (captures : Bool) (body : Syntax)
  | alternation (branches : List Syntax)
  | concatenation (parts : List Syntax)

namespace Syntax

def ofParts : List Syntax → Syntax
  | [] => .empty
  | [part] => part
  | parts => .concatenation parts

def ofBranches : List Syntax → Syntax
  | [] => .empty
  | [branch] => branch
  | branches => .alternation branches

def isRepeatable : Syntax → Bool
  | .empty => false
  | .flags _ => false
  | _ => true

end Syntax

/-- The part that several parts of a class make up. -/
def ClassItem.ofItems : List ClassItem → ClassItem
  | [item] => item
  | items => .union items

/-! ## Nesting -/

mutual

def ClassItem.depth : ClassItem → Nat
  | .literal _ | .range _ _ | .posix _ _ | .shorthand _ _ | .property _ _ => 0
  | .nested _ body => 1 + body.depth
  | .union [] => 0
  | .union (item :: items) => 1 + ClassItem.maxDepth (item :: items)
  | .intersection a b | .difference a b | .symmetricDifference a b => 1 + max a.depth b.depth

def ClassItem.maxDepth : List ClassItem → Nat
  | [] => 0
  | item :: items => max item.depth (ClassItem.maxDepth items)

end

mutual

def Syntax.depth : Syntax → Nat
  | .empty | .flags _ | .literal _ | .anyChar | .anchor _ | .shorthand _ _ | .property _ _ => 0
  | .bracketed _ body => 1 + body.depth
  | .repeated _ _ body => 1 + body.depth
  | .group _ _ body => 1 + body.depth
  | .alternation branches => 1 + Syntax.maxDepth branches
  | .concatenation parts => 1 + Syntax.maxDepth parts

def Syntax.maxDepth : List Syntax → Nat
  | [] => 0
  | part :: parts => max part.depth (Syntax.maxDepth parts)

end

end FormRules.Pattern
