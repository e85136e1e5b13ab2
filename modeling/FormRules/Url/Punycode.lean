import FormRules.Text.Blank

/-!
# Punycode

The encoding of any characters by ASCII letters, digits and hyphens.  Only its
reading is needed.
-/

namespace FormRules.Url.Punycode

open Text

def digit? (c : Char) : Option Nat :=
  if isAsciiLetter c then some ((lowerAscii c).toNat - 97)
  else if isAsciiDigit c then some (digitValue c + 26)
  else none

/-- The least digit that does not end a number, at a place that is a multiple of 36. -/
def threshold (place bias : Nat) : Nat :=
  if place ≤ bias then 1 else if bias + 26 ≤ place then 26 else place - bias

/-- Scale a step down; the first component counts the divisions, times 36. -/
def scale : Nat → Nat → Nat → Nat × Nat
  | 0, k, delta => (k, delta)
  | fuel + 1, k, delta => if 455 < delta then scale fuel (k + 36) (delta / 35) else (k, delta)

def adapt (delta size : Nat) (first : Bool) : Nat :=
  let delta := if first then delta / 700 else delta / 2
  let (k, delta) := scale 32 0 (delta + delta / size)
  k + 36 * delta / (delta + 38)

/-- Read a number with digits of growing weight: the number and the rest. -/
def number? (bias : Nat) : (place weight : Nat) → List Char → Option (Nat × List Char)
  | _, _, [] => none
  | place, weight, c :: cs => do
    let d ← digit? c
    let t := threshold place bias
    if d < t then return (d * weight, cs)
    let weight' := weight * (36 - t)
    if 4294967296 ≤ weight' then none
    let (rest, cs) ← number? bias (place + 36) weight' cs
    return (d * weight + rest, cs)

def char? (n : Nat) : Option Char :=
  if h : n.isValidChar then some (Char.ofNatAux n h) else none

/-- Insert the characters that some numbers describe into a text. -/
def insertAll? : (fuel : Nat) → (code index bias : Nat) → List Char → List Char →
    Option (List Char)
  | 0, _, _, _, _, _ => none
  | _ + 1, _, _, _, out, [] => some out
  | fuel + 1, code, index, bias, out, cs => do
    let (delta, rest) ← number? bias 36 1 cs
    let size := out.length + 1
    let code := code + (index + delta) / size
    let place := (index + delta) % size
    if 4294967296 ≤ index + delta then none
    let c ← char? code
    insertAll? fuel code (place + 1) (adapt delta size (out.all fun c => c.toNat < 128))
      (out.take place ++ c :: out.drop place) rest

/-- The ASCII characters before the last hyphen, and what follows it. -/
def splitBasic (cs : List Char) : List Char × List Char :=
  let tail := (cs.reverse.takeWhile fun c => c ≠ '-').reverse
  let head := cs.take (cs.length - tail.length - 1)
  if head.isEmpty then ([], cs) else (head, tail)

def decode? (cs : List Char) : Option (List Char) :=
  let (basic, steps) := splitBasic cs
  insertAll? (steps.length + 1) 128 0 72 basic steps

end FormRules.Url.Punycode
