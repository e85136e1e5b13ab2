import FormRules.Json.Printer
import FormRules.Json.Reader
import FormRules.Numeric.Literal
import FormRules.Query.Syntax
import FormRules.Text.Pieces

/-!
# Data of filters

The values that filters compute with: those of JSON, where a number is an
integer of 64 bits, a floating-point number, or a text that is read as a number
only when one computes with it.
-/

namespace FormRules.Query

inductive Datum where
  | null
  | bool (value : Bool)
  | int (value : Int)
  | float (value : Float)
  | literal (text : List Char)
  | text (value : String)
  | array (items : List Datum)
  | object (members : List (String × Datum))
deriving Inhabited

namespace Datum

/-! ## Numbers -/

def fits (i : Int) : Bool :=
  -9223372036854775808 ≤ i && i < 9223372036854775808

/-- The floating-point number with a text; whatever is no number is null. -/
def ofNumberText (cs : List Char) : Datum :=
  match Literal.real? cs with
  | some (.decimal negative significand exponent) =>
    match Literal.toBinary64? negative significand exponent with
    | some x => .float (Float.ofBits x.toBits.toUInt64)
    | none => .float (if negative then -(1.0 / 0.0) else 1.0 / 0.0)
  | _ => .null

def ofLiteral (cs : List Char) : Datum :=
  match Literal.integer? cs with
  | some i => if fits i then .int i else .literal cs
  | none => .literal cs

def intToFloat (i : Int) : Float :=
  Float.ofBits (Binary64.ofInt i).toBits.toUInt64

def finite? (x : Float) : Option Binary64 :=
  Binary64.ofBits? x.toBits.toNat

/-- The text of a floating-point number; one that is not finite has the text of null. -/
def floatText (x : Float) : List Char :=
  match finite? x with
  | some b =>
    let layout : Decimal.Layout := { least := -5, bound := 16, plus := [] }
    layout.number b
  | none => ['n', 'u', 'l', 'l']

def intOr (i : Int) (otherwise : Float) : Datum :=
  if fits i then .int i else .float otherwise

/-- The value with its number read, if it is a number given by its text. -/
def settled : Datum → Datum
  | .literal cs => ofNumberText cs
  | d => d

def floatToInt (x : Float) : Int :=
  match finite? x with
  | some b => max (-9223372036854775808) (min 9223372036854775807 b.toInt)
  | none => if x.isNaN then 0 else if x < 0 then -9223372036854775808 else 9223372036854775807

/-- The remainder of a division of floating-point numbers, with the sign of the dividend. -/
def floatRemainder (x y : Float) : Float :=
  match finite? x, finite? y with
  | some a, some b =>
    let d := Binary64.units b.ordinal
    if d = 0 then 0.0 / 0.0
    else
      match Binary64.ofOrdinal? a.negative
          (Binary64.nearestOrdinal (Binary64.units a.ordinal % d) 1) with
      | some r => Float.ofBits r.toBits.toUInt64
      | none => x
  | some _, none => if y.isNaN then y else x
  | none, _ => 0.0 / 0.0

/-! ## Truth and kinds -/

def isTrue : Datum → Bool
  | .null => false
  | .bool b => b
  | _ => true

/-! ## JSON -/

mutual

def ofJson : Json → Datum
  | .null => .null
  | .bool b => .bool b
  | .number n => ofLiteral n.text
  | .string s => .text s
  | .array items => .array (ofJsonItems items)
  | .object members => .object (ofJsonMembers members)

def ofJsonItems : List Json → List Datum
  | [] => []
  | x :: xs => ofJson x :: ofJsonItems xs

def ofJsonMembers : List (String × Json) → List (String × Datum)
  | [] => []
  | (key, x) :: xs => (key, ofJson x) :: ofJsonMembers xs

end

mutual

def compact : Datum → List Char
  | .null => ['n', 'u', 'l', 'l']
  | .bool true => ['t', 'r', 'u', 'e']
  | .bool false => ['f', 'a', 'l', 's', 'e']
  | .int i => Decimal.integer i
  | .float x => floatText x
  | .literal cs => cs
  | .text s => Quoted.encode s.toList
  | .array items => '[' :: compactItems items
  | .object members => '{' :: compactMembers members

def compactItems : List Datum → List Char
  | [] => [']']
  | [x] => compact x ++ [']']
  | x :: y :: rest => compact x ++ ',' :: compactItems (y :: rest)

def compactMembers : List (String × Datum) → List Char
  | [] => ['}']
  | [(key, x)] => Quoted.encode key.toList ++ ':' :: compact x ++ ['}']
  | (key, x) :: y :: rest =>
    Quoted.encode key.toList ++ ':' :: compact x ++ ',' :: compactMembers (y :: rest)

end

def toText (d : Datum) : String :=
  String.ofList d.compact

/-- The JSON value with the text of a value; a number's text may be none of JSON. -/
def toJson? (d : Datum) : Option Json :=
  (Json.ofText d.toText).toOption

def plainText : Datum → String
  | .text s => s
  | d => d.toText

/-! ## Order -/

/-- Compare floating-point numbers; what is no number comes first, and the zeros are equal. -/
def compareFloats (x y : Float) : Ordering :=
  if x.isNaN then .lt
  else if y.isNaN then .gt
  else if x < y then .lt
  else if y < x then .gt
  else .eq

def kindRank : Datum → Nat
  | .null => 0
  | .bool false => 1
  | .bool true => 2
  | .int _ | .float _ | .literal _ => 3
  | .text _ => 4
  | .array _ => 5
  | .object _ => 6

def compareNumbers : Datum → Datum → Ordering
  | .int a, .int b => compare a b
  | .int a, .float y => compareFloats (intToFloat a) y
  | .float x, .int b => compareFloats x (intToFloat b)
  | .float x, .float y => compareFloats x y
  | _, _ => .eq

def sortedMembers (members : List (String × Datum)) : List (String × Datum) :=
  members.mergeSort fun a b => a.1 ≤ b.1

def compareTexts : List String → List String → Ordering
  | [], [] => .eq
  | [], _ => .lt
  | _, [] => .gt
  | a :: as, b :: bs => (compare a b).then (compareTexts as bs)

mutual

/-- Compare two values down to a depth. -/
def compareTo : Nat → Datum → Datum → Ordering
  | 0, _, _ => .eq
  | fuel + 1, a, b =>
    match a, b with
    | .text s, .text t => compare s t
    | .array xs, .array ys => compareLists fuel xs ys
    | .object ms, .object ns =>
      let ms := sortedMembers ms
      let ns := sortedMembers ns
      (compareTexts (ms.map Prod.fst) (ns.map Prod.fst)).then
        (compareLists fuel (ms.map Prod.snd) (ns.map Prod.snd))
    | a, b => (compare a.kindRank b.kindRank).then (compareNumbers a.settled b.settled)

def compareLists : Nat → List Datum → List Datum → Ordering
  | 0, _, _ => .eq
  | _ + 1, [], [] => .eq
  | _ + 1, [], _ :: _ => .lt
  | _ + 1, _ :: _, [] => .gt
  | fuel + 1, x :: xs, y :: ys => (compareTo fuel x y).then (compareLists fuel xs ys)

end

mutual

def size : Datum → Nat
  | .array items => 1 + sizeOfItems items
  | .object members => 2 + sizeOfMembers members
  | _ => 1

def sizeOfItems : List Datum → Nat
  | [] => 1
  | x :: xs => 1 + size x + sizeOfItems xs

def sizeOfMembers : List (String × Datum) → Nat
  | [] => 1
  | (_, x) :: xs => 1 + size x + sizeOfMembers xs

end

def order (a b : Datum) : Ordering :=
  compareTo (a.size + b.size + 1) a b

def satisfies (op : Comparison) (a b : Datum) : Bool :=
  match op, a.order b with
  | .equal, o => o = .eq
  | .unequal, o => o ≠ .eq
  | .less, o => o = .lt
  | .lessOrEqual, o => o ≠ .gt
  | .greater, o => o = .gt
  | .greaterOrEqual, o => o ≠ .lt

def same (a b : Datum) : Bool :=
  satisfies .equal a b

/-! ## Faults -/

def ofChars (cs : List Char) : Datum :=
  .text (String.ofList cs)

/-- What is thrown when an operation has no meaning for its operands. -/
def badOperands (op : Arithmetic) (a b : Datum) : Datum :=
  .text ("cannot calculate " ++ a.toText ++ " " ++ op.sign ++ " " ++ b.toText)

def badKind (d : Datum) (kind : String) : Datum :=
  .text ("cannot use " ++ d.toText ++ " as " ++ kind)

def badIndex (d key : Datum) : Datum :=
  .text ("cannot index " ++ d.toText ++ " with " ++ key.toText)

/-! ## Arithmetic -/

/-- Cut a text at each occurrence of another one; an empty one cuts at every character. -/
def cut (s sep : List Char) : List (List Char) :=
  if s.isEmpty then []
  else if sep.isEmpty then s.map fun c => [c]
  else go [] (s.length + 1) s
where
  /-- Continue with what is read of a piece, in reverse. -/
  go (piece : List Char) : Nat → List Char → List (List Char)
    | 0, _ => [piece.reverse]
    | _ + 1, [] => [piece.reverse]
    | fuel + 1, c :: cs =>
      if sep.isPrefixOf (c :: cs) then piece.reverse :: go [] fuel ((c :: cs).drop sep.length)
      else go (c :: piece) fuel cs

/-- Merge the members of an object into another one, and objects under the same key likewise. -/
def merge : Nat → List (String × Datum) → List (String × Datum) → List (String × Datum)
  | 0, into, _ => into
  | fuel + 1, into, members =>
    members.foldl (fun acc m =>
      let value := match Entries.get? m.1 acc, m.2 with
        | some (.object old), .object new => .object (merge fuel old new)
        | _, new => new
      Entries.insert m.1 value acc) into

def onFloats : Arithmetic → Float → Float → Float
  | .add, x, y => x + y
  | .subtract, x, y => x - y
  | .multiply, x, y => x * y
  | .divide, x, y => x / y
  | .remainder, x, y => floatRemainder x y

def onInts (op : Arithmetic) (a b : Int) : Option Datum :=
  let x := intToFloat a
  let y := intToFloat b
  match op with
  | .add => some (intOr (a + b) (x + y))
  | .subtract => some (intOr (a - b) (x - y))
  | .multiply => some (intOr (a * b) (x * y))
  | .divide => some (.float (x / y))
  | .remainder => if b = 0 then none else some (.int (Int.tmod a b))

/-- A text repeated; no repetition gives null. -/
def repeatText (s : String) (i : Int) : Datum :=
  if 0 < i then ofChars (List.replicate i.toNat s.toList).flatten else .null

def calculate (op : Arithmetic) (a b : Datum) : Except Datum Datum :=
  match op, a, b with
  | .add, .null, b => .ok b
  | .add, a, .null => .ok a
  | .add, .text s, .text t => .ok (.text (s ++ t))
  | .add, .array xs, .array ys => .ok (.array (xs ++ ys))
  | .add, .object ms, .object ns =>
    .ok (.object (ns.foldl (fun acc m => Entries.insert m.1 m.2 acc) ms))
  | .subtract, .array xs, .array ys => .ok (.array (xs.filter fun x => !ys.any (same x)))
  | .multiply, .text s, .int i => .ok (repeatText s i)
  | .multiply, .int i, .text s => .ok (repeatText s i)
  | .multiply, .object ms, .object ns => .ok (.object (merge (a.size + b.size) ms ns))
  | .divide, .text s, .text t =>
    .ok (.array ((cut s.toList t.toList).map ofChars))
  | op, a, b =>
    match a.settled, b.settled with
    | .int i, .int j =>
      match onInts op i j with
      | some d => .ok d
      | none => .error (badOperands op a b)
    | .int i, .float y => .ok (.float (onFloats op (intToFloat i) y))
    | .float x, .int j => .ok (.float (onFloats op x (intToFloat j)))
    | .float x, .float y => .ok (.float (onFloats op x y))
    | _, _ => .error (badOperands op a b)

def opposite (d : Datum) : Except Datum Datum :=
  match d.settled with
  | .int i => .ok (intOr (-i) (-(intToFloat i)))
  | .float x => .ok (.float (-x))
  | _ => .error (badKind d "number")

/-! ## Parts -/

/-- The place that an integer means in a list; negative ones count from the end. -/
def place? (i : Int) (length : Nat) : Option Nat :=
  if 0 ≤ i then (if i.toNat < length then some i.toNat else none)
  else if i.natAbs ≤ length then some (length - i.natAbs) else none

def bound (b : Option Int) (length default : Nat) : Nat :=
  match b with
  | none => default
  | some i => if 0 ≤ i then min i.toNat length else length - i.natAbs

def occurrences {α : Type} (eq : α → α → Bool) (needle : List α) : Nat → List α → List Nat
  | _, [] => []
  | k, x :: xs =>
    let here := needle.length ≤ (x :: xs).length &&
      (needle.zip (x :: xs)).all fun p => eq p.1 p.2
    if here then k :: occurrences eq needle (k + 1) xs else occurrences eq needle (k + 1) xs

/-- The integer of a bound; null means that there is no bound. -/
def boundOf : Datum → Except Datum (Option Int)
  | .null => .ok none
  | .int i => .ok (some i)
  | d => .error (badKind d "integer")

def slice (d first last : Datum) : Except Datum Datum := do
  let length ← match d with
    | .array xs => pure xs.length
    | .text s => pure s.length
    | _ => throw (badKind d "rangeable (array or string)")
  let lo := bound (← boundOf first) length 0
  let hi := bound (← boundOf last) length length
  match d with
  | .array xs => return .array ((xs.take hi).drop lo)
  | .text s => return ofChars ((s.toList.take hi).drop lo)
  | _ => return .null

def index (d key : Datum) : Except Datum Datum :=
  match d, key with
  | .array xs, .int i => .ok ((place? i xs.length).bind (fun k => xs[k]?) |>.getD .null)
  | .object ms, .text k => .ok ((Entries.get? k ms).getD .null)
  | .array xs, .array ys =>
    .ok (.array (if ys.isEmpty then [] else (occurrences same ys 0 xs).map fun k => .int (k : Nat)))
  | d, .object ms =>
    match Entries.get? "start" ms, Entries.get? "end" ms with
    | some first, some last => slice d first last
    | _, _ => .error (badIndex d key)
  | d, key => .error (badIndex d key)

def parts (d : Datum) : Except Datum (List (Datum × Datum)) :=
  match d with
  | .array xs => .ok (xs.mapIdx fun k x => (.int k, x))
  | .object ms => .ok (ms.map fun m => (.text m.1, m.2))
  | d => .error (badKind d "iterable (array or object)")

end Datum

end FormRules.Query
