import FormRules.OrderedMap
import FormRules.Numeric.Decimal

/-!
# JSON values

Numbers are integers of 64 bits, signed or unsigned, or binary floating-point
numbers; the two forms are different values even where they are equal in
magnitude.  Objects keep the order of their members.
-/

namespace FormRules

/-! ## Numbers -/

inductive Number where
  | int (value : Int) (fits : -9223372036854775808 ≤ value ∧ value < 18446744073709551616)
  /-- A number written with a point or an exponent, or too large for an integer. -/
  | float (value : Binary64)
deriving DecidableEq

namespace Number

def ofInt? (i : Int) : Option Number :=
  if h : -9223372036854775808 ≤ i ∧ i < 18446744073709551616 then some (.int i h) else none

def ofInt64 (i : Int64) : Number :=
  .int i.toInt (by
    have h1 := Int64.le_toInt i
    have h2 := Int64.toInt_lt i
    omega)

/-- Whether two numbers have the same form and value; the two zeros of the floating form do. -/
def same : Number → Number → Bool
  | .int a _, .int b _ => a = b
  | .float x, .float y => x.sameValue y
  | _, _ => false

def toBinary64 : Number → Binary64
  | .int i _ => Binary64.ofInt i
  | .float x => x

def toNat? : Number → Option Nat
  | .int i _ => if 0 ≤ i then some i.toNat else none
  | .float _ => none

/-- Floating-point numbers are positional from `1e-5` up to below `1e16`. -/
def layout : Decimal.Layout :=
  { least := -5, bound := 16, plus := ['+'] }

def text : Number → List Char
  | .int i _ => Decimal.integer i
  | .float x => layout.number x

end Number

/-! ## Values -/

inductive Json where
  | null
  | bool (value : Bool)
  | number (value : Number)
  | string (value : String)
  | array (items : List Json)
  | object (members : List (String × Json))
deriving Inhabited

namespace Json

inductive Kind where
  | null
  | boolean
  | number
  | string
  | array
  | object
deriving DecidableEq, Repr

def Kind.name : Kind → String
  | .null => "null"
  | .boolean => "boolean"
  | .number => "number"
  | .string => "string"
  | .array => "array"
  | .object => "object"

def kind : Json → Kind
  | .null => .null
  | .bool _ => .boolean
  | .number _ => .number
  | .string _ => .string
  | .array _ => .array
  | .object _ => .object

/-! ## Access -/

def member? (key : String) : Json → Option Json
  | .object members => Entries.get? key members
  | _ => none

def asString? : Json → Option String
  | .string s => some s
  | _ => none

def asBool? : Json → Option Bool
  | .bool b => some b
  | _ => none

def asArray? : Json → Option (List Json)
  | .array items => some items
  | _ => none

def asObject? : Json → Option (List (String × Json))
  | .object members => some members
  | _ => none

def asNat? : Json → Option Nat
  | .number n => n.toNat?
  | _ => none

def ofInt64 (i : Int64) : Json :=
  .number (.ofInt64 i)

/-- The number value of a natural number; beyond 64 bits the nearest floating-point number. -/
def ofNat (n : Nat) : Json :=
  match Number.ofInt? n with
  | some fit => .number fit
  | none => .number (.float (Binary64.ofNat n))

def ofOption : Option String → Json
  | some s => .string s
  | none => .null

/-! ## Sameness -/

mutual

/-- Whether two values are the same; the order of an object's members does not matter. -/
def same : Json → Json → Bool
  | .null, .null => true
  | .bool a, .bool b => a = b
  | .number a, .number b => a.same b
  | .string a, .string b => a = b
  | .array xs, .array ys => sameItems xs ys
  | .object xs, .object ys => xs.length = ys.length && sameMembers xs ys
  | _, _ => false

def sameItems : List Json → List Json → Bool
  | [], [] => true
  | x :: xs, y :: ys => same x y && sameItems xs ys
  | _, _ => false

def sameMembers : List (String × Json) → List (String × Json) → Bool
  | [], _ => true
  | (key, x) :: xs, ys =>
    (match Entries.get? key ys with
      | some y => same x y
      | none => false) && sameMembers xs ys

end

end Json

end FormRules
