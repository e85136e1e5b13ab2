import FormRules.Numeric.Decimal
import FormRules.Text.Blank
import FormRules.Text.Pieces

/-!
# Numeric addresses of hosts

The written forms of addresses of version 4, with parts in three bases, and of
version 6, with a gap of zeros and an address of version 4 at the end.
-/

namespace FormRules.Url

open Text

/-! ## Version 4 -/

def ofDigits? (base : Nat) (digits : List Char) : Option Nat :=
  digits.foldlM (fun acc c => do
    let d ← hexValue? c
    if d < base then some (acc * base + d) else none) 0

def partNumber? : List Char → Option Nat
  | [] => none
  | '0' :: x :: digits =>
    if x = 'x' || x = 'X' then ofDigits? 16 digits else ofDigits? 8 (x :: digits)
  | digits => ofDigits? 10 digits

/-- The parts of a host name, without an empty one behind the last full stop. -/
def hostParts (cs : List Char) : List (List Char) :=
  let parts := pieces '.' cs
  if 1 < parts.length && parts.getLast? = some [] then parts.dropLast else parts

/-- Whether a host name has to be an address of version 4. -/
def endsInNumber (cs : List Char) : Bool :=
  match (hostParts cs).getLast? with
  | some last => (!last.isEmpty && last.all isAsciiDigit) || (partNumber? last).isSome
  | none => false

/-- Whether some numbers make an address: all but the last are bytes, the last fills the rest. -/
def fitsAddress : List Nat → Bool
  | [] => false
  | numbers =>
    let last := numbers.getLast?.getD 0
    numbers.length ≤ 4 && numbers.dropLast.all (fun n => n < 256) &&
      last < Nat.pow 256 (5 - numbers.length)

def isAddress4 (cs : List Char) : Bool :=
  match (hostParts cs).mapM partNumber? with
  | some numbers => fitsAddress numbers
  | none => false

/-! ## Version 6 -/

def isByteText (cs : List Char) : Bool :=
  match cs with
  | [] => false
  | ['0'] => true
  | '0' :: _ => false
  | _ => cs.all isAsciiDigit && Decimal.value cs < 256

def isDottedQuad (cs : List Char) : Bool :=
  let parts := pieces '.' cs
  parts.length = 4 && parts.all isByteText

def isHexPiece (cs : List Char) : Bool :=
  !cs.isEmpty && cs.length ≤ 4 && cs.all fun c => (hexValue? c).isSome

/-- How many pieces some texts between colons are; the last may be four bytes if `tail` is set. -/
def countPieces? (tail : Bool) : List (List Char) → Option Nat
  | [] => some 0
  | [p] =>
    if isHexPiece p then some 1 else if tail && isDottedQuad p then some 2 else none
  | p :: ps => if isHexPiece p then (countPieces? tail ps).map (· + 1) else none

def colonPieces (cs : List Char) : List (List Char) :=
  if cs.isEmpty then [] else pieces ':' cs

def splitGap : List Char → Option (List Char × List Char)
  | ':' :: ':' :: rest => some ([], rest)
  | c :: rest => (splitGap rest).map fun p => (c :: p.1, p.2)
  | [] => none

/-- Whether characters are an address of version 6. -/
def isAddress6 (cs : List Char) : Bool :=
  match splitGap cs with
  | none => countPieces? true (pieces ':' cs) = some 8
  | some (front, back) =>
    match countPieces? false (colonPieces front), countPieces? true (colonPieces back) with
    | some m, some n => m + n ≤ 7
    | _, _ => false

end FormRules.Url
