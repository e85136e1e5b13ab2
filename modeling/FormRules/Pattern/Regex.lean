import FormRules.Pattern.Footprint
import FormRules.Text.Blank
import FormRules.Text.Pieces

/-!
# Regular expressions

A compiled pattern, and whether it matches anywhere in a text.  The places of a
text are numbered; a set of places is a number whose bits are its members, and
an expression takes the places where a match may start to those where it ends.

A server writes a regular expression between two equal delimiters, with letters for
modifiers behind the second one.  Four of the modifiers have a counterpart inside a
pattern; the other letters are dropped.
-/

namespace FormRules.Pattern

/-! ## Delimited patterns -/

open Text

def delimiters : List Char := ['/', '#', '~', '!', '@', '%']

def inlineModifiers : List Char := ['i', 'm', 's', 'x']

def split? : List Char → Option (List Char × List Char)
  | [] => none
  | delimiter :: rest =>
    if delimiters.contains delimiter then
      match splitLast delimiter rest with
      | some (body, modifiers) => if modifiers.all isAsciiLetter then some (body, modifiers) else none
      | none => none
    else none

/-- Put modifiers in front of a pattern. -/
def withModifiers (modifiers body : List Char) : List Char :=
  match modifiers.filter inlineModifiers.contains with
  | [] => body
  | flags => '(' :: '?' :: flags ++ ')' :: body

/-- The pattern without its delimiters; a pattern without delimiters stays as it is. -/
def undelimited (raw : List Char) : List Char :=
  match split? raw with
  | some (body, modifiers) => withModifiers modifiers body
  | none => raw

def undelimitedText (raw : String) : String :=
  String.ofList (undelimited raw.toList)

end FormRules.Pattern

namespace FormRules

namespace Pattern

/-! ## Places of a text -/

/-- Sets of places, as the bits of a number. -/
abbrev Places := Nat

def before? (text : Array Char) (place : Nat) : Option Char :=
  if place = 0 then none else text[place - 1]?

def isWord (ascii : Bool) : Option Char → Bool
  | some c => (if ascii then CharSet.asciiWord else CharSet.word).contains c
  | none => false

def WordPlace.holds (left right : Bool) : WordPlace → Bool
  | .boundary => left != right
  | .notBoundary => left == right
  | .start => !left && right
  | .stop => left && !right
  | .startHalf => !left
  | .stopHalf => !right

def Condition.holds (text : Array Char) (place : Nat) (c : Condition) : Bool :=
  let left := before? text place
  let right := text[place]?
  match c with
  | .textStart => left = none
  | .textEnd => right = none
  | .lineStart => left = none || left = some '\n'
  | .lineEnd => right = none || right = some '\n'
  | .lineStartCrlf =>
    left = none || left = some '\n' || (left = some '\r' && right ≠ some '\n')
  | .lineEndCrlf =>
    right = none || right = some '\r' || (right = some '\n' && left ≠ some '\r')
  | .word w ascii => w.holds (isWord ascii left) (isWord ascii right)

/-- The members of a set of places that satisfy a test, of the first `count` places. -/
def Places.filter (test : Nat → Bool) (places : Places) : (count : Nat) → Places
  | 0 => 0
  | n + 1 =>
    let rest := Places.filter test places n
    if places.testBit n && test n then rest ||| 1 <<< n else rest

def Places.all (length : Nat) : Places :=
  Nat.pow 2 (length + 1) - 1

/-- Add what a step reaches, up to some number of times. -/
def Places.close (step : Places → Places) : Nat → Places → Places
  | 0, reached => reached
  | fuel + 1, reached =>
    let more := reached ||| step reached
    if more = reached then reached else close step fuel more

def Places.iterate (step : Places → Places) : Nat → Places → Places
  | 0, places => places
  | n + 1, places => if places = 0 then 0 else iterate step n (step places)

/-! ## Matching -/

mutual

/-- The places where matches that start in a set of places end. -/
def Expr.ends (text : Array Char) : Expr → Places → Places
  | .empty, places => places
  | .chars set, places =>
    (places.filter (fun i => (text[i]?.map set.contains).getD false) text.size) <<< 1
  | .condition c, places => places.filter (c.holds text) (text.size + 1)
  | .concat es, places => Expr.endsInRow text es places
  | .alt es, places => Expr.endsOfAny text es places
  | .repeated least most body, places =>
    let step := body.ends text
    let rounds := match most with
      | some most => min (most - least) (text.size + 1)
      | none => text.size + 1
    Places.close step rounds (Places.iterate step least places)
  | .capture body, places => body.ends text places

def Expr.endsInRow (text : Array Char) : List Expr → Places → Places
  | [], places => places
  | e :: es, places => Expr.endsInRow text es (e.ends text places)

def Expr.endsOfAny (text : Array Char) : List Expr → Places → Places
  | [], _ => 0
  | e :: es, places => e.ends text places ||| Expr.endsOfAny text es places

end

end Pattern

structure Regex where
  expr : Pattern.Expr

namespace Regex

/-- Compile a pattern; one that is malformed or too large has no compiled form. -/
def compile? (pattern : String) : Option Regex := do
  let e ← Pattern.Expr.ofChars? pattern.toList
  if e.isSmall then some ⟨e⟩ else none

def isMatch (r : Regex) (s : String) : Bool :=
  let text := s.toList.toArray
  r.expr.ends text (Pattern.Places.all text.size) ≠ 0

end Regex

end FormRules
