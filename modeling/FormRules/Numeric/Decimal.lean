import FormRules.Numeric.Binary64

/-!
# Decimal texts of numbers

The digits of a natural number, the shortest digits that single out a binary
floating-point number, and the layout of a number text.
-/

namespace FormRules.Decimal

/-! ## Natural numbers and integers -/

def digitChar (d : Nat) : Char :=
  Char.ofNat (48 + d % 10)

def digits (n : Nat) : List Char :=
  if n < 10 then [digitChar n] else digits (n / 10) ++ [digitChar n]
termination_by n

def integer (i : Int) : List Char :=
  if i < 0 then '-' :: digits i.natAbs else digits i.natAbs

def padded (width n : Nat) : List Char :=
  List.replicate (width - (digits n).length) '0' ++ digits n

def value (cs : List Char) : Nat :=
  cs.foldl (fun acc c => acc * 10 + (c.toNat - 48)) 0

/-! ## Shortest digits -/

/--
The exponent of the leading decimal digit of a positive quotient, from an
estimate that is at most one too large.
-/
def leadingExponent (num den : Nat) : Int :=
  let bits : Int := (num.log2 : Int) - den.log2
  let estimate : Int := Int.fdiv (bits * 30103 + 60206) 100000
  let reaches (e : Int) : Bool :=
    if 0 ≤ e then den * Nat.pow 10 e.toNat ≤ num else den ≤ num * Nat.pow 10 (-e).toNat
  if reaches (estimate + 1) then estimate + 1
  else if reaches estimate then estimate
  else if reaches (estimate - 1) then estimate - 1
  else estimate - 2

/-- Drop the zeros at the end of a significand of at most `fuel` digits. -/
def dropZeros : Nat → Nat → Nat
  | 0, n => n
  | fuel + 1, n => if n ≠ 0 ∧ n % 10 = 0 then dropZeros fuel (n / 10) else n

structure Interval where
  low : Nat
  mid : Nat
  high : Nat
  /-- Whether the ends round to the number, too. -/
  closed : Bool
  /-- How many units of the interval make one. -/
  one : Nat

/-- The interval of an ordinal, in quarters of the least positive magnitude. -/
def Interval.ofOrdinal (o : Nat) : Interval :=
  let u := Binary64.units
  { low := 2 * (u (o - 1) + u o), mid := 4 * u o, high := 2 * (u o + u (o + 1)),
    closed := o % 2 = 0, one := 4 * Binary64.unitsPerOne }

/--
The significand of `places` digits nearest to the number among those in its
interval, if there is one.  If any decimal of that many digits lies in the
interval, then one of the number's two neighbours does.
-/
def Interval.significand? (i : Interval) (exponent : Int) (places : Nat) : Option Nat :=
  let up : Int := (places : Int) - 1 - exponent
  let scale := Nat.pow 10 up.toNat
  let step := i.one * Nat.pow 10 (-up).toNat
  let inside (d : Nat) : Bool :=
    let x := d * step
    if i.closed then i.low * scale ≤ x && x ≤ i.high * scale
    else i.low * scale < x && x < i.high * scale
  let below := i.mid * scale / step
  match inside below, inside (below + 1) with
  | false, false => none
  | true, false => some below
  | false, true => some (below + 1)
  | true, true => some (Binary64.roundHalfEven (i.mid * scale) step)

/-- The first significand found with `places` digits or up to `fuel` more. -/
def Interval.search (i : Interval) (exponent : Int) : Nat → Nat → Nat × Nat
  | 0, places =>
    let up : Int := (places : Int) - 1 - exponent
    (Binary64.roundHalfEven (i.mid * Nat.pow 10 up.toNat) (i.one * Nat.pow 10 (-up).toNat), places)
  | fuel + 1, places =>
    match i.significand? exponent places with
    | some d => (d, places)
    | none => i.search exponent fuel (places + 1)

structure Scientific where
  significand : Nat
  exponent : Int

/--
The decimal with the fewest digits that rounds to the magnitude of an ordinal,
and the nearest of those.  Seventeen digits always suffice.
-/
def shortest (ordinal : Nat) : Scientific :=
  if ordinal = 0 then ⟨0, 0⟩
  else
    let i := Interval.ofOrdinal ordinal
    let e := leadingExponent i.mid i.one
    let (d, places) := i.search e 16 1
    -- A significand that was rounded up to a power of ten has one digit more than asked for.
    ⟨dropZeros 20 d, e + (digits d).length - places⟩

/-! ## Layout -/

structure Layout where
  least : Int
  /-- The least exponent from which the scientific form is used again. -/
  bound : Int
  plus : List Char

/-- The text of a decimal under a layout; there is always a point or an exponent. -/
def Layout.scientific (l : Layout) (d : Scientific) : List Char :=
  let ds := digits d.significand
  if d.exponent < l.least || l.bound ≤ d.exponent then
    let fraction := match ds.tail with
      | [] => []
      | rest => '.' :: rest
    let sign := if d.exponent < 0 then ['-'] else l.plus
    ds.take 1 ++ fraction ++ 'e' :: sign ++ digits d.exponent.natAbs
  else if d.exponent < 0 then
    '0' :: '.' :: List.replicate (d.exponent.natAbs - 1) '0' ++ ds
  else
    let whole := d.exponent.toNat + 1
    if ds.length ≤ whole then
      ds ++ List.replicate (whole - ds.length) '0' ++ ['.', '0']
    else ds.take whole ++ '.' :: ds.drop whole

def Layout.number (l : Layout) (x : Binary64) : List Char :=
  (if x.negative then ['-'] else []) ++ l.scientific (shortest x.ordinal)

end FormRules.Decimal
