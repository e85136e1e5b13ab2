import FormRules.Json.Scan
import FormRules.Text.Blank

/-!
# Tokens of filters

A filter text is cut into words, symbols, literals and bracketed blocks.  White
space and comments separate tokens.
-/

namespace FormRules.Query

open Text

mutual

inductive Token where
  | word (name : String)
  | variable (name : String)
  /-- An at sign and a name; the sign belongs to the name. -/
  | format (name : String)
  | number (text : List Char)
  | text (parts : List TextToken)
  /-- A full stop and a name right behind it. -/
  | field (name : String)
  | symbol (text : String)
  /-- What stands between an opening bracket and the one that closes it. -/
  | block (opening : Char) (body : List Token)

inductive TextToken where
  | chars (cs : List Char)
  | inserted (body : List Token)

end

namespace Token

/-! ## Characters -/

def isNameStart (c : Char) : Bool :=
  isAsciiLetter c || c = '_'

def isNameChar (c : Char) : Bool :=
  isNameStart c || isAsciiDigit c

def isOperator (c : Char) : Bool :=
  ['|', '=', '!', '<', '>', '+', '-', '*', '/', '%'].contains c

def closing? : Char → Option Char
  | '(' => some ')'
  | '[' => some ']'
  | '{' => some '}'
  | _ => none

def isSpace (c : Char) : Bool :=
  c = ' ' || (9 ≤ c.toNat && c.toNat ≤ 13)

/-! ## Space -/

/-- The text behind a comment; a line that ends in an odd number of backslashes continues it. -/
def afterComment : Nat → List Char → List Char
  | 0, cs => cs
  | fuel + 1, cs =>
    let line := cs.takeWhile fun c => c ≠ '\n'
    let rest := (cs.drop line.length).tail
    let line := if line.getLast? = some '\r' then line.dropLast else line
    let slashes := (line.reverse.takeWhile fun c => c = '\\').length
    if slashes % 2 = 1 then afterComment fuel rest else rest

def afterSpace : Nat → List Char → List Char
  | 0, cs => cs
  | fuel + 1, cs =>
    match cs.dropWhile isSpace with
    | '#' :: rest => afterSpace fuel (afterComment (rest.length + 1) rest)
    | other => other

/-! ## Names and numbers -/

/-- Split a name, which may have parts behind pairs of colons, from what follows. -/
def spanName : Nat → List Char → List Char × List Char
  | 0, cs => ([], cs)
  | fuel + 1, cs =>
    let head := cs.takeWhile isNameChar
    match cs.drop head.length with
    | ':' :: ':' :: c :: rest =>
      if isNameStart c then
        let (more, rest) := spanName fuel (c :: rest)
        (head ++ ':' :: ':' :: more, rest)
      else (head, ':' :: ':' :: c :: rest)
    | rest => (head, rest)

def name? (cs : List Char) : Option (String × List Char) :=
  match cs with
  | c :: _ =>
    if isNameStart c then
      let (name, rest) := spanName cs.length cs
      some (String.ofList name, rest)
    else none
  | [] => none

def exponent? : List Char → Option (List Char × List Char)
  | c :: rest =>
    if c = 'e' || c = 'E' then
      let (sign, rest) := match rest with
        | '+' :: more => (['+'], more)
        | '-' :: more => (['-'], more)
        | _ => ([], rest)
      let digits := rest.takeWhile isAsciiDigit
      if digits.isEmpty then none
      else some (c :: sign ++ digits, rest.drop digits.length)
    else some ([], c :: rest)
  | [] => some ([], [])

def number? (cs : List Char) : Option (List Char × List Char) := do
  let whole := cs.takeWhile isAsciiDigit
  let rest := cs.drop whole.length
  let (fraction, rest) := match rest with
    | '.' :: more =>
      let digits := more.takeWhile isAsciiDigit
      ('.' :: digits, more.drop digits.length)
    | _ => ([], rest)
  let (exponent, rest) ← exponent? rest
  return (whole ++ fraction ++ exponent, rest)

/-! ## Escapes -/

def hexCode? : List Char → Option (Nat × List Char)
  | a :: b :: c :: d :: rest => (Json.Decode.hexValue4? a b c d).map fun n => (n, rest)
  | _ => none

/-- The character of an escape that starts behind `\u`; halves of a pair come together. -/
def hexChar? (cs : List Char) : Option (Char × List Char) := do
  let (high, rest) ← hexCode? cs
  if 0xDC00 ≤ high && high < 0xE000 then none
  if 0xD800 ≤ high && high < 0xDC00 then
    match rest with
    | '\\' :: 'u' :: more =>
      let (low, rest) ← hexCode? more
      if 0xDC00 ≤ low && low < 0xE000 then
        return (Char.ofNat (0x10000 + (high - 0xD800) * 1024 + (low - 0xDC00)), rest)
      else none
    | _ => none
  else return (Char.ofNat high, rest)

def escape? : List Char → Option (Char × List Char)
  | 'b' :: rest => some (Char.ofNat 8, rest)
  | 'f' :: rest => some (Char.ofNat 12, rest)
  | 'n' :: rest => some ('\n', rest)
  | 'r' :: rest => some ('\r', rest)
  | 't' :: rest => some ('\t', rest)
  | 'u' :: rest => hexChar? rest
  | c :: rest => if c = '\\' || c = '/' || c = '"' then some (c, rest) else none
  | [] => none

/-! ## Cutting -/

def punctuation? (c : Char) : Option String :=
  if c = ':' || c = ';' || c = ',' || c = '?' then some (String.singleton c) else none

mutual

/-- The tokens up to a closing bracket or the end, and what follows them. -/
def many? : Nat → List Char → Option (List Token × List Char)
  | 0, _ => none
  | fuel + 1, cs =>
    match afterSpace (cs.length + 1) cs with
    | [] => some ([], [])
    | c :: rest =>
      if c = ')' || c = ']' || c = '}' then some ([], c :: rest)
      else do
        let (token, rest) ← one? fuel c rest
        let (tokens, rest) ← many? fuel rest
        return (token :: tokens, rest)

def one? : Nat → Char → List Char → Option (Token × List Char)
  | 0, _, _ => none
  | fuel + 1, c, rest =>
    if isNameStart c then (name? (c :: rest)).map fun p => (.word p.1, p.2)
    else if isAsciiDigit c then (number? (c :: rest)).map fun p => (.number p.1, p.2)
    else if isOperator c then
      let op := (c :: rest).takeWhile isOperator
      some (.symbol (String.ofList op), (c :: rest).drop op.length)
    else if c = '$' then (name? rest).map fun p => (.variable p.1, p.2)
    else if c = '@' then (name? rest).map fun p => (.format ("@" ++ p.1), p.2)
    else if c = '"' then (quoted? fuel rest).map fun p => (.text p.1, p.2)
    else if c = '.' then
      match rest with
      | '.' :: rest => some (.symbol "..", rest)
      | d :: _ =>
        if isNameStart d then
          let name := rest.takeWhile isNameChar
          some (.field (String.ofList name), rest.drop name.length)
        else some (.symbol ".", rest)
      | [] => some (.symbol ".", [])
    else
      match punctuation? c, closing? c with
      | some s, _ => some (.symbol s, rest)
      | none, some close => do
        let (body, rest) ← many? fuel rest
        match rest with
        | d :: rest => if d = close then some (.block c body, rest) else none
        | [] => none
      | none, none => none

/-- The parts of a quoted text behind its opening quote. -/
def quoted? : Nat → List Char → Option (List TextToken × List Char)
  | 0, _ => none
  | fuel + 1, cs =>
    let plain := cs.takeWhile fun c => c ≠ '"' && c ≠ '\\'
    let before : List TextToken := if plain.isEmpty then [] else [.chars plain]
    match cs.drop plain.length with
    | '"' :: rest => some (before, rest)
    | '\\' :: '(' :: rest => do
      let (body, rest) ← many? fuel rest
      match rest with
      | ')' :: rest =>
        let (parts, rest) ← quoted? fuel rest
        return (before ++ .inserted body :: parts, rest)
      | _ => none
    | '\\' :: rest => do
      let (c, rest) ← escape? rest
      let (parts, rest) ← quoted? fuel rest
      return (before ++ .chars [c] :: parts, rest)
    | _ => none

end

def ofText? (s : String) : Option (List Token) := do
  let cs := s.toList
  let (tokens, rest) ← many? (2 * cs.length + 2) cs
  if rest.isEmpty then some tokens else none

end Token

end FormRules.Query
