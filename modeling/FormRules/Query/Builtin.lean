import FormRules.Pattern.Regex
import FormRules.Query.Datum

/-!
# Basic filters

The filters that are functions of the input and of the values of their
arguments.
-/

namespace FormRules.Query.Builtin

open Text

/-! ## Kinds -/

def needText : Datum → Except Datum String
  | .text s => .ok s
  | d => .error (d.badKind "string")

def needItems : Datum → Except Datum (List Datum)
  | .array xs => .ok xs
  | d => .error (d.badKind "array")

def needFloat (d : Datum) : Except Datum Float :=
  match d.settled with
  | .int i => .ok (Datum.intToFloat i)
  | .float x => .ok x
  | _ => .error (d.badKind "number")

def onChars (f : List Char → List Char) (d : Datum) : Except Datum Datum := do
  return Datum.ofChars (f (← needText d).toList)

/-! ## Size and keys -/

/-- The length of a value; of a number the magnitude. -/
def length (d : Datum) : Except Datum Datum :=
  match d.settled with
  | .null => .ok (.int 0)
  | .bool _ => .error (.text (d.toText ++ " has no length"))
  | .int i => .ok (.int i.natAbs)
  | .float x => .ok (.float x.abs)
  | .text s => .ok (.int s.length)
  | .array xs => .ok (.int xs.length)
  | .object ms => .ok (.int ms.length)
  | .literal _ => .ok .null

def keysInOrder (d : Datum) : Except Datum (List Datum) := do
  return (← d.parts).map Prod.fst

def sorted (xs : List Datum) : List Datum :=
  xs.mergeSort fun a b => a.order b != .gt

def has (d key : Datum) : Except Datum Datum :=
  match d, key with
  | .object ms, .text k => .ok (.bool (Entries.get? k ms).isSome)
  | .array xs, .int i =>
    if 0 ≤ i then .ok (.bool (i.toNat < xs.length)) else .error (d.badIndex key)
  | d, key => .error (d.badIndex key)

def isInfix (needle : List Char) : List Char → Bool
  | [] => needle.isEmpty
  | c :: cs => needle.isPrefixOf (c :: cs) || isInfix needle cs

def contains : Nat → Datum → Datum → Bool
  | 0, _, _ => false
  | fuel + 1, a, b =>
    match a, b with
    | .text s, .text t => isInfix t.toList s.toList
    | .array xs, .array ys => ys.all fun y => xs.any fun x => contains fuel x y
    | .object ms, .object ns => ns.all fun n =>
      match Entries.get? n.1 ms with
      | some m => contains fuel m n.2
      | none => false
    | a, b => a.same b

/-- Where a value occurs in another one. -/
def indices (d needle : Datum) : Except Datum Datum :=
  let places (ks : List Nat) : Datum := .array (ks.map fun (k : Nat) => .int k)
  match d, needle with
  | .null, _ => .ok .null
  | .text s, .text t =>
    .ok (places (if t.isEmpty then [] else Datum.occurrences (· == ·) t.toList 0 s.toList))
  | .array xs, .array ys =>
    .ok (places (if ys.isEmpty then [] else Datum.occurrences Datum.same ys 0 xs))
  | .array xs, y => .ok (places (Datum.occurrences Datum.same [y] 0 xs))
  | d, needle => .error (d.badIndex needle)

/-! ## Texts -/

def upperAscii (c : Char) : Char :=
  if 97 ≤ c.toNat && c.toNat ≤ 122 then Char.ofNat (c.toNat - 32) else c

def explode (d : Datum) : Except Datum Datum := do
  return .array ((← needText d).toList.map fun c => .int c.toNat)

def implode (d : Datum) : Except Datum Datum := do
  let cs ← (← needItems d).mapM fun
    | .int i =>
      if 0 ≤ i && i.toNat.isValidChar then .ok (Char.ofNat i.toNat)
      else .error (Datum.badKind (.int i) "character")
    | x => .error (x.badKind "character")
  return Datum.ofChars cs

def withoutStart (d start : Datum) : Except Datum Datum :=
  match d, start with
  | .text s, .text t =>
    if t.toList.isPrefixOf s.toList then .ok (Datum.ofChars (s.toList.drop t.length)) else .ok d
  | _, _ => .ok d

/-- The text without another one at its end. -/
def withoutEnd (d stop : Datum) : Except Datum Datum :=
  match d, stop with
  | .text s, .text t =>
    if t.toList.reverse.isPrefixOf s.toList.reverse then
      .ok (Datum.ofChars (s.toList.take (s.length - t.length)))
    else .ok d
  | _, _ => .ok d

def isNumberText (cs : List Char) : Bool :=
  let body := match cs with
    | '-' :: rest => rest
    | _ => cs
  let whole := body.takeWhile isAsciiDigit
  let rest := body.drop whole.length
  let (fraction, rest) := match rest with
    | '.' :: more => (some (more.takeWhile isAsciiDigit), more.dropWhile isAsciiDigit)
    | _ => (none, rest)
  let exponentFits := match rest with
    | [] => true
    | c :: more =>
      let digits := match more with
        | '+' :: ds => ds
        | '-' :: ds => ds
        | ds => ds
      (c = 'e' || c = 'E') && !digits.isEmpty && digits.all isAsciiDigit
  !whole.isEmpty && (whole.length = 1 || whole.head? ≠ some '0') &&
    fraction ≠ some [] && exponentFits

/-- The value of a JSON text. -/
def ofJsonText (s : String) : Except Datum Datum :=
  let cs := s.toList
  let core := trim cs
  if isNumberText core then .ok (Datum.ofLiteral core)
  else
    match Json.Decode.value Json.Decode.depthLimit (Json.Cursor.start cs) with
    | .ok v rest =>
      if rest.rest.all Json.Decode.isSpace then .ok (Datum.ofJson v)
      else .error (.text ("cannot parse " ++ s ++ " as JSON"))
    | .error _ _ => .error (.text ("cannot parse " ++ s ++ " as JSON"))

/-- The number that a value is or is the text of. -/
def toNumber (d : Datum) : Except Datum Datum :=
  match d with
  | .int _ | .float _ | .literal _ => .ok d
  | .text s =>
    let core := trim s.toList
    if isNumberText core then .ok (Datum.ofLiteral core)
    else .error (.text ("cannot parse " ++ s ++ " as number"))
  | d => .error (d.badKind "number")

def test (d pattern : Datum) (flags : String) : Except Datum Datum := do
  let s ← needText d
  let p ← needText pattern
  let switches := flags.toList.filter fun c => ['i', 'x', 's'].contains c
  let lead := if switches.isEmpty then [] else ['(', '?'] ++ switches ++ [')']
  match Regex.compile? (String.ofList (lead ++ p.toList)) with
  | some r => return .bool (r.isMatch s)
  | none => throw (.text ("invalid regex: " ++ p))

/-! ## Numbers -/

def rounded (f : Float → Float) (d : Datum) : Except Datum Datum := do
  match d.settled with
  | .int i => return .int i
  | _ => return .int (Datum.floatToInt (f (← needFloat d)))

def onFloat (f : Float → Float) (d : Datum) : Except Datum Datum := do
  return .float (f (← needFloat d))

def onFloats (f : Float → Float → Float) (a b : Datum) : Except Datum Datum := do
  return .float (f (← needFloat a) (← needFloat b))

/-! ## Formats -/

def escaped (f : Char → List Char) (d : Datum) : Datum :=
  Datum.ofChars (d.plainText.toList.flatMap f)

def apostrophe : Char := Char.ofNat 39

def htmlChar (c : Char) : List Char :=
  match c with
  | '<' => "&lt;".toList
  | '>' => "&gt;".toList
  | '&' => "&amp;".toList
  | '"' => "&quot;".toList
  | c => if c = apostrophe then "&#39;".toList else [c]

def uriChar (c : Char) : List Char :=
  if isAsciiLetter c || isAsciiDigit c || ['-', '_', '.', '~'].contains c then [c]
  else
    (String.utf8EncodeChar c).flatMap fun b =>
      ['%', hexDigit (b.toNat / 16), hexDigit (b.toNat % 16)]
where
  hexDigit (n : Nat) : Char :=
    Char.ofNat (if n < 10 then 48 + n else 55 + n)

def shellWord (d : Datum) : Except Datum (List Char) :=
  match d with
  | .text s =>
    .ok (apostrophe :: (s.toList.flatMap fun c =>
      if c = apostrophe then [apostrophe, '\\', apostrophe, apostrophe] else [c]) ++ [apostrophe])
  | .array _ | .object _ => .error (.text (d.toText ++ " cannot be escaped for shell"))
  | d => .ok d.compact

def csvCell (d : Datum) : Except Datum (List Char) :=
  match d with
  | .text s =>
    .ok ('"' :: (s.toList.flatMap fun c => if c = '"' then ['"', '"'] else [c]) ++ ['"'])
  | .null => .ok []
  | .array _ | .object _ => .error (.text (d.toText ++ " is not valid in a csv row"))
  | d => .ok d.compact

def tsvCell (d : Datum) : Except Datum (List Char) :=
  match d with
  | .text s => .ok (s.toList.flatMap fun c =>
    match c with
    | '\\' => ['\\', '\\']
    | '\t' => ['\\', 't']
    | '\n' => ['\\', 'n']
    | '\r' => ['\\', 'r']
    | c => [c])
  | .null => .ok []
  | .array _ | .object _ => .error (.text (d.toText ++ " is not valid in a tsv row"))
  | d => .ok d.compact

def base64Digit (n : Nat) : Char :=
  if n < 26 then Char.ofNat (65 + n)
  else if n < 52 then Char.ofNat (71 + n)
  else if n < 62 then Char.ofNat (n - 4)
  else if n = 62 then '+'
  else '/'

def base64 : List Nat → List Char
  | a :: b :: c :: rest =>
    let n := (a * 256 + b) * 256 + c
    base64Digit (n / 262144) :: base64Digit (n / 4096 % 64) :: base64Digit (n / 64 % 64) ::
      base64Digit (n % 64) :: base64 rest
  | [a, b] =>
    let n := (a * 256 + b) * 4
    [base64Digit (n / 4096), base64Digit (n / 64 % 64), base64Digit (n % 64), '=']
  | [a] => [base64Digit (a / 4), base64Digit (a % 4 * 16), '=', '=']
  | [] => []

def base64Value? (c : Char) : Option Nat :=
  (List.range 64).find? fun n => base64Digit n = c

def unbase64? : List Char → Option (List Nat)
  | [] => some []
  | [a, b] => do return [(← base64Value? a) * 4 + (← base64Value? b) / 16]
  | [a, b, c] => do
    let n := ((← base64Value? a) * 64 + (← base64Value? b)) * 64 + (← base64Value? c)
    return [n / 1024, n / 4 % 256]
  | a :: b :: c :: d :: rest => do
    let n := (((← base64Value? a) * 64 + (← base64Value? b)) * 64 + (← base64Value? c)) * 64 +
      (← base64Value? d)
    return n / 65536 :: n / 256 % 256 :: n % 256 :: (← unbase64? rest)
  | [_] => none

def fromBase64 (d : Datum) : Except Datum Datum :=
  let digits := d.plainText.toList.takeWhile fun c => c ≠ '='
  match (unbase64? digits).bind fun bytes =>
      String.fromUTF8? ⟨(bytes.map Nat.toUInt8).toArray⟩ with
  | some s => .ok (.text s)
  | none => .error (.text (d.toText ++ " is not valid base64 data"))

def row (sep : Char) (cell : Datum → Except Datum (List Char)) (d : Datum) :
    Except Datum Datum := do
  return Datum.ofChars (joinWith [sep] (← (← needItems d).mapM cell))

/-! ## Paths -/

/-- The part of a value at a path; what is below null is null. -/
def atPath : Datum → List Datum → Except Datum Datum
  | d, [] => .ok d
  | .null, _ :: _ => .ok .null
  | d, key :: keys => do atPath (← d.index key) keys

def setItem (k : Nat) (x : Datum) (xs : List Datum) : List Datum :=
  if k < xs.length then xs.set k x else xs ++ List.replicate (k - xs.length) .null ++ [x]

/-- The value with another part at a path. -/
def setPath : List Datum → Datum → Datum → Except Datum Datum
  | [], x, _ => .ok x
  | key :: keys, x, d =>
    match d, key with
    | .null, .text k => do return .object [(k, ← setPath keys x .null)]
    | .null, .int i => do
      if i < 0 then throw (Datum.text "index out of bounds")
      return .array (setItem i.toNat (← setPath keys x .null) [])
    | .object ms, .text k => do
      return .object (Entries.insert k (← setPath keys x ((Entries.get? k ms).getD .null)) ms)
    | .array xs, .int i => do
      let k ← if 0 ≤ i then pure i.toNat else
        match Datum.place? i xs.length with
        | some k => pure k
        | none => throw (Datum.text "index out of bounds")
      return .array (setItem k (← setPath keys x (xs[k]?.getD .null)) xs)
    | d, key => .error (d.badIndex key)

/-! ## Tables -/

def ofInput? : String → Option (Datum → Except Datum Datum)
  | "null" => some fun _ => .ok .null
  | "true" => some fun _ => .ok (.bool true)
  | "false" => some fun _ => .ok (.bool false)
  | "error" => some .error
  | "length" => some length
  | "utf8bytelength" => some fun d => do return .int (← needText d).utf8ByteSize
  | "keys_unsorted" => some fun d => do return .array (← keysInOrder d)
  | "keys" => some fun d => do return .array (sorted (← keysInOrder d))
  | "sort" => some fun d => do return .array (sorted (← needItems d))
  | "reverse" => some fun d => do return .array (← needItems d).reverse
  | "tojson" => some fun d => .ok (.text d.toText)
  | "fromjson" => some fun d => do ofJsonText (← needText d)
  | "tostring" => some fun d => .ok (.text d.plainText)
  | "tonumber" => some toNumber
  | "explode" => some explode
  | "implode" => some implode
  | "ascii_downcase" => some (onChars fun cs => cs.map lowerAscii)
  | "ascii_upcase" => some (onChars fun cs => cs.map upperAscii)
  | "trim" => some (onChars trim)
  | "ltrim" => some (onChars trimStart)
  | "rtrim" => some (onChars trimEnd)
  | "floor" => some (rounded Float.floor)
  | "ceil" => some (rounded Float.ceil)
  | "round" => some (rounded Float.round)
  | "trunc" => some (onFloat fun x => if x < 0 then x.ceil else x.floor)
  | "sqrt" => some (onFloat Float.sqrt)
  | "cbrt" => some (onFloat Float.cbrt)
  | "fabs" => some (onFloat Float.abs)
  | "exp" => some (onFloat Float.exp)
  | "exp2" => some (onFloat Float.exp2)
  | "exp10" => some (onFloat fun x => Float.pow 10.0 x)
  | "log" => some (onFloat Float.log)
  | "log2" => some (onFloat Float.log2)
  | "log10" => some (onFloat Float.log10)
  | "sin" => some (onFloat Float.sin)
  | "cos" => some (onFloat Float.cos)
  | "tan" => some (onFloat Float.tan)
  | "asin" => some (onFloat Float.asin)
  | "acos" => some (onFloat Float.acos)
  | "atan" => some (onFloat Float.atan)
  | "sinh" => some (onFloat Float.sinh)
  | "cosh" => some (onFloat Float.cosh)
  | "tanh" => some (onFloat Float.tanh)
  | "@text" => some fun d => .ok (.text d.plainText)
  | "@json" => some fun d => .ok (.text d.toText)
  | "@html" => some fun d => .ok (escaped htmlChar d)
  | "@uri" => some fun d => .ok (escaped uriChar d)
  | "@csv" => some (row ',' csvCell)
  | "@tsv" => some (row '\t' tsvCell)
  | "@sh" => some fun d =>
    match d with
    | .array _ => row ' ' shellWord d
    | d => do return Datum.ofChars (← shellWord d)
  | "@base64" => some fun d =>
    .ok (Datum.ofChars (base64 (d.plainText.toUTF8.toList.map UInt8.toNat)))
  | "@base64d" => some fromBase64
  | _ => none

def ofOne? : String → Option (Datum → Datum → Except Datum Datum)
  | "error" => some fun _ x => .error x
  | "has" => some has
  | "contains" => some fun d x => .ok (.bool (contains (d.size + x.size) d x))
  | "indices" => some indices
  | "startswith" => some fun d x => do
    return .bool ((← needText x).toList.isPrefixOf (← needText d).toList)
  | "endswith" => some fun d x => do
    return .bool ((← needText x).toList.reverse.isPrefixOf (← needText d).toList.reverse)
  | "ltrimstr" => some withoutStart
  | "rtrimstr" => some withoutEnd
  | "split" => some fun d x => do
    return .array ((Datum.cut (← needText d).toList (← needText x).toList).map Datum.ofChars)
  | "test" => some fun d x => test d x ""
  | _ => none

def ofTwo? : String → Option (Datum → Datum → Datum → Except Datum Datum)
  | "setpath" => some fun d p x => do setPath (← needItems p) x d
  | "test" => some fun d x flags => do test d x (← needText flags)
  | "pow" => some fun _ a b => onFloats Float.pow a b
  | "atan2" => some fun _ a b => onFloats Float.atan2 a b
  | "fmod" => some fun _ a b => onFloats Datum.floatRemainder a b
  | _ => none

/-- The basic filters that take filters as arguments or that know of places. -/
def specialFilters : List (String × Nat) :=
  [("empty", 0), ("path", 1), ("first", 1), ("last", 1), ("limit", 2), ("skip", 2), ("range", 3),
    ("getpath", 1), ("sort_by", 1), ("group_by", 1), ("min_by", 1), ("max_by", 1)]

def isBasic (name : String) (arity : Nat) : Bool :=
  specialFilters.contains (name, arity) ||
    match arity with
    | 0 => (ofInput? name).isSome
    | 1 => (ofOne? name).isSome
    | 2 => (ofTwo? name).isSome
    | _ => false

end FormRules.Query.Builtin
