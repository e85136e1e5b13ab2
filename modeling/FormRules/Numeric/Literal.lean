import FormRules.Text.Blank
import FormRules.Numeric.Decimal

/-!
# Reading numbers from text

Plain readers for whole texts: an integer with an optional sign, and a decimal
number in positional or scientific form.
-/

namespace FormRules.Literal

open Text

/-! ## Signs and digits -/

/-- Take an optional sign off a text; `true` stands for minus. -/
def sign : List Char → Bool × List Char
  | '-' :: cs => (true, cs)
  | '+' :: cs => (false, cs)
  | cs => (false, cs)

def spanDigits (cs : List Char) : List Char × List Char :=
  (cs.takeWhile isAsciiDigit, cs.dropWhile isAsciiDigit)

/-! ## Integers -/

def integer? (cs : List Char) : Option Int :=
  let (negative, ds) := sign cs
  if ds.isEmpty || !ds.all isAsciiDigit then none
  else
    let n : Int := Decimal.value ds
    some (if negative then -n else n)

def int64? (cs : List Char) : Option Int64 :=
  (integer? cs).bind fun i =>
    if Int64.minValue.toInt ≤ i ∧ i ≤ Int64.maxValue.toInt then some (Int64.ofInt i) else none

/-! ## Decimals -/

inductive Real where
  | decimal (negative : Bool) (significand : Nat) (exponent : Int)
  | infinite
  | undefined
deriving DecidableEq

/-- Read the exponent that ends a decimal; large ones stop growing, the value is settled by then. -/
def exponent? : List Char → Option Int
  | [] => some 0
  | c :: cs =>
    if lowerAscii c ≠ 'e' then none
    else
      let (negative, ds) := sign cs
      if ds.isEmpty || !ds.all isAsciiDigit then none
      else
        let n : Int := ds.foldl
          (fun acc d => if acc < 65536 then acc * 10 + digitValue d else acc) 0
        some (if negative then -n else n)

/-- Read a decimal with an optional sign, point and exponent, or the name of a special value. -/
def real? (cs : List Char) : Option Real :=
  let (negative, body) := sign cs
  let (whole, rest) := spanDigits body
  let (fraction, tail) := match rest with
    | '.' :: more => spanDigits more
    | _ => ([], rest)
  if whole.isEmpty && fraction.isEmpty then
    let name := String.ofList (body.map lowerAscii)
    if name = "inf" || name = "infinity" then some .infinite
    else if name = "nan" then some .undefined
    else none
  else
    (exponent? tail).map fun e =>
      .decimal negative (Decimal.value (whole ++ fraction)) (e - fraction.length)

def toBinary64? (negative : Bool) (significand : Nat) (exponent : Int) : Option Binary64 :=
  if significand = 0 then some (Binary64.zero negative)
  else
    Binary64.ofRatio? negative (significand * Nat.pow 10 exponent.toNat)
      (Nat.pow 10 (-exponent).toNat)

end FormRules.Literal
