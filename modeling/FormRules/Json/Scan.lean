import FormRules.Text.Blank
import FormRules.Json.Cursor

/-!
# Words, strings and numbers of a JSON text

The scalar parts of a text.  Each step starts behind the character that told
what it is, where that character stands for itself (`"`, `-`, the first letter
of a word).
-/

namespace FormRules.Json.Decode

open Text

/-! ## Words -/

def word : List Char → Decode Unit
  | [] => pure ()
  | c :: cs => do
    match ← peek with
    | none => fail .eofInValue
    | some d => if d = c then advance; word cs else failAhead .wordWanted

/-! ## Strings -/

def hexValue4? (a b c d : Char) : Option Nat := do
  let a ← hexValue? a
  let b ← hexValue? b
  let c ← hexValue? c
  let d ← hexValue? d
  return ((a * 16 + b) * 16 + c) * 16 + d

def byteLength (cs : List Char) : Nat :=
  cs.foldl (fun n c => n + c.utf8Size) 0

def hexEscape : Decode Nat := fun s =>
  match s.rest with
  | a :: b :: c :: d :: cs =>
    match hexValue4? a b c d with
    | some n => .ok n ⟨cs, ⟨s.position.line, s.position.column + 4⟩⟩
    | none => .error ⟨.badEscape, some (s.position.afterBytes 4 s.rest), []⟩ s
  | short =>
    if byteLength short < 4 then
      let stop := short.foldl Position.after s.position
      .error ⟨.eofInString, some stop, []⟩ ⟨[], stop⟩
    else .error ⟨.badEscape, some (s.position.afterBytes 4 short), []⟩ s

/-- Read a character that a hexadecimal escape must have next. -/
def hexEscapeContinues (wanted : Char) : Decode Unit := do
  match ← peek with
  | none => fail .eofInString
  | some c => if c = wanted then advance else failAhead .hexEscapeEnds

/-- Read what follows a backslash and `u`: one escape, or two for a surrogate pair. -/
def unicodeEscape : Decode Char := do
  let high ← hexEscape
  if 0xDC00 ≤ high && high ≤ 0xDFFF then fail .loneSurrogate
  else if high < 0xD800 || 0xDBFF < high then return Char.ofNat high
  else
    hexEscapeContinues '\\'
    hexEscapeContinues 'u'
    let low ← hexEscape
    if low < 0xDC00 || 0xDFFF < low then fail .loneSurrogate
    else return Char.ofNat ((high - 0xD800) * 0x400 + (low - 0xDC00) + 0x10000)

def simpleEscape? (c : Char) : Option Char :=
  if c = '"' then some '"'
  else if c = '\\' then some '\\'
  else if c = '/' then some '/'
  else if c = 'b' then some (Char.ofNat 8)
  else if c = 'f' then some (Char.ofNat 12)
  else if c = 'n' then some '\n'
  else if c = 'r' then some '\r'
  else if c = 't' then some '\t'
  else none

def escapeSequence : Decode Char := do
  match ← peek with
  | none => fail .eofInString
  | some c =>
    match simpleEscape? c with
    | some d => advance; return d
    | none => if c = 'u' then advance; unicodeEscape else failAhead .badEscape

def stringChars : Nat → Decode (List Char)
  | 0 => fail .eofInString
  | fuel + 1 => do
    match ← peek with
    | none => fail .eofInString
    | some c =>
      if c = '"' then advance; return []
      else if c = '\\' then
        advance
        let d ← escapeSequence
        return d :: (← stringChars fuel)
      else if c.toNat < 32 then failAhead .controlCharacter
      else
        advance
        return c :: (← stringChars fuel)

def stringBody : Decode String := do
  return String.ofList (← stringChars ((← remaining) + 1))

/-! ## Numbers -/

def digitRun : Decode (List Char) := fun s =>
  let ds := s.rest.takeWhile isAsciiDigit
  .ok ds ⟨s.rest.dropWhile isAsciiDigit, ⟨s.position.line, s.position.column + ds.length⟩⟩

/--
Append digits to a significand of 64 bits, up to the first one that would
overflow it.  The second component counts the digits used.
-/
def absorb (significand : Nat) : List Char → Nat × Nat
  | [] => (significand, 0)
  | d :: ds =>
    let next := significand * 10 + digitValue d
    if 18446744073709551616 ≤ next then (significand, 0)
    else
      let (result, used) := absorb next ds
      (result, used + 1)

def powerOfTen (k : Nat) : Binary64 :=
  Binary64.ofRatio false (Nat.pow 10 k) 1

/--
The number of a significand and a decimal exponent, in two roundings: the
significand is rounded first, then multiplied or divided by a power of ten.
Exponents below `-308` take one division more for each 308.
-/
def scale? : Nat → Binary64 → Int → Option Binary64
  | 0, x, _ => some x
  | fuel + 1, x, exponent =>
    if x.ordinal = 0 then some x
    else if 308 < exponent then none
    else if 0 ≤ exponent then x.mul? (powerOfTen exponent.toNat)
    else if -308 ≤ exponent then x.div? (powerOfTen exponent.natAbs)
    else
      match x.div? (powerOfTen 308) with
      | some y => scale? fuel y (exponent + 308)
      | none => none

def scaled? (negative : Bool) (significand : Nat) (exponent : Int) : Option Number :=
  (scale? 8 (Binary64.ofNat significand) exponent).map fun x =>
    .float (if negative then x.neg else x)

def inRange : Option Number → Decode Number
  | some n => pure n
  | none => fail .numberOutOfRange

def floating (negative : Bool) (significand : Nat) (exponent : Int) : Decode Number :=
  inRange (scaled? negative significand exponent)

/-- The number of digits after which an exponent no longer fits 32 bits, if there is such a number. -/
def exponentOverflow? (value count : Nat) : List Char → Option Nat
  | [] => none
  | d :: ds =>
    let next := value * 10 + digitValue d
    if 2147483648 ≤ next then some (count + 1) else exponentOverflow? next (count + 1) ds

/-- Fail on the line of a place, some bytes behind it. -/
def failBehind (p : Position) (count : Nat) (fault : Fault) : Decode Number := fun s =>
  .error ⟨fault, some ⟨p.line, p.column + count⟩, []⟩ s

/-- Read the digits of an exponent and give the number that they scale up or, behind a minus, down. -/
def exponentDigits (negative : Bool) (significand : Nat) (start : Int) (minus : Bool) :
    Decode Number := do
  match ← peek with
  | none => fail .eofInValue
  | some c =>
    if !isAsciiDigit c then failAhead .badNumber
    else
      let before ← get
      let ds ← digitRun
      match exponentOverflow? 0 0 ds with
      | some count =>
        if significand ≠ 0 && !minus then failBehind before.position count .numberOutOfRange
        else return .float (Binary64.zero negative)
      | none =>
        let e : Int := Decimal.value ds
        floating negative significand (if minus then start - e else start + e)

def scaledNumber (negative : Bool) (significand : Nat) (start : Int) : Decode Number := do
  advance
  let sign ← peek
  if sign = some '+' || sign = some '-' then advance
  exponentDigits negative significand start (sign = some '-')

def startsExponent (c : Option Char) : Bool :=
  c = some 'e' || c = some 'E'

def fractionalNumber (negative : Bool) (significand : Nat) (start : Int) : Decode Number := do
  advance
  let ds ← digitRun
  if ds.isEmpty then
    match ← peek with
    | none => failAhead .eofInValue
    | some _ => failAhead .badNumber
  else
    let (significand, used) := absorb significand ds
    let exponent := start - used
    if startsExponent (← peek) then scaledNumber negative significand exponent
    else floating negative significand exponent

/-- The number of an integer text: in integer form if it fits, except for minus zero. -/
def wholeNumber (negative : Bool) (significand : Nat) : Number :=
  let i : Int := if negative then -(significand : Int) else significand
  match if negative && significand = 0 then none else Number.ofInt? i with
  | some n => n
  | none =>
    let x := Binary64.ofNat significand
    .float (if negative then x.neg else x)

def numberBody (negative : Bool) : Decode Number := do
  match ← peek with
  | none => fail .eofInValue
  | some c =>
    if !isAsciiDigit c then failAhead .badNumber
    else
      if c = '0' then
        advance
        match ← peek with
        | some d => if isAsciiDigit d then failAhead .badNumber
        | none => pure ()
        rest 0 0
      else
        let ds ← digitRun
        let (significand, used) := absorb 0 ds
        rest significand (ds.length - used)
where
  /-- What may follow the integer part, of which `dropped` digits did not fit. -/
  rest (significand dropped : Nat) : Decode Number := do
    let next ← peek
    if next = some '.' then fractionalNumber negative significand dropped
    else if startsExponent next then scaledNumber negative significand dropped
    else if dropped = 0 then return wholeNumber negative significand
    else floating negative significand dropped

end FormRules.Json.Decode
