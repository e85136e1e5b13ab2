import FormRules.Url.Address
import FormRules.Url.Domain

/-!
# Absolute URLs

Which texts are absolute URLs: a scheme, and for schemes with an authority a
host that is a name or an address, and a port.  Paths, queries and fragments
may hold anything.
-/

namespace FormRules.Url

open Text

/-! ## Schemes -/

inductive SchemeKind where
  /-- Files: the host may be empty and there is no port. -/
  | file
  /-- Schemes of the web, which have a host and treat backslashes as slashes. -/
  | web
  | other
deriving DecidableEq, Repr

def SchemeKind.ofName (name : String) : SchemeKind :=
  if name = "file" then .file
  else if ["http", "https", "ws", "wss", "ftp"].contains name then .web
  else .other

def isSchemeChar (c : Char) : Bool :=
  isAsciiLetter c || isAsciiDigit c || c = '+' || c = '-' || c = '.'

/-- The scheme before the first colon, in lower case, and what follows the colon. -/
def scheme? (cs : List Char) : Option (String × List Char) :=
  let name := cs.takeWhile isSchemeChar
  match name, cs.drop name.length with
  | first :: _, ':' :: rest =>
    if isAsciiLetter first then some (String.ofList (name.map lowerAscii), rest) else none
  | _, _ => none

/-! ## Hosts -/

def percentDecode : List Char → List UInt8
  | [] => []
  | '%' :: a :: b :: rest =>
    match hexValue? a, hexValue? b with
    | some x, some y => (x * 16 + y).toUInt8 :: percentDecode rest
    | _, _ => 37 :: percentDecode (a :: b :: rest)
  | c :: rest => (String.utf8EncodeChar c) ++ percentDecode rest

def unescape? (cs : List Char) : Option (List Char) :=
  (String.fromUTF8? ⟨(percentDecode cs).toArray⟩).map String.toList

def bracketed? (cs : List Char) : Option (Option (List Char)) :=
  match cs with
  | '[' :: rest => some (if rest.getLast? = some ']' then some rest.dropLast else none)
  | _ => none

def isWebHost (cs : List Char) : Bool :=
  match bracketed? cs with
  | some inner => (inner.map isAddress6).getD false
  | none =>
    match (unescape? cs).bind domain? with
    | none => false
    | some labels =>
      let name := joinWith ['.'] labels
      !name.isEmpty && (!endsInNumber name || isAddress4 name)

def isForbiddenInHost (c : Char) : Bool :=
  [Char.ofNat 0, '\t', '\n', '\r', ' ', '#', '/', ':', '<', '>', '?', '@', '[', '\\', ']', '^',
    '|'].contains c

def isOpaqueHost (cs : List Char) : Bool :=
  match bracketed? cs with
  | some inner => (inner.map isAddress6).getD false
  | none => !cs.any isForbiddenInHost

/-! ## Authorities -/

def endsAuthority (kind : SchemeKind) (c : Char) : Bool :=
  c = '/' || c = '?' || c = '#' || (kind != .other && c = '\\')

/-- Split a host from the colon behind it; colons in brackets are the host's. -/
def splitHost (inBrackets : Bool) : List Char → List Char × List Char
  | [] => ([], [])
  | c :: cs =>
    if c = ':' && !inBrackets then ([], c :: cs)
    else
      let inside := if c = '[' then true else if c = ']' then false else inBrackets
      let (host, rest) := splitHost inside cs
      (c :: host, rest)

/-- Whether characters start with a port or nothing; a backslash ends a port. -/
def isPort (cs : List Char) : Bool :=
  let digits := cs.takeWhile fun c => c ≠ '\\'
  digits.all isAsciiDigit && Decimal.value digits < 65536

/-- Whether the text before the at sign, which may be missing, leaves room for an empty host: it
names nobody, and if it is empty, nothing follows the authority. -/
def allowsNoHost (user : Option (List Char)) (isLast : Bool) : Bool :=
  match user with
  | none => true
  | some [] => isLast
  | some [c] => c = ':'
  | some _ => false

def isAuthority (kind : SchemeKind) (cs : List Char) : Bool :=
  let authority := cs.takeWhile fun c => !endsAuthority kind c
  let (user, hostPort) := match splitLast '@' authority with
    | some (user, hostPort) => (some user, hostPort)
    | none => (none, authority)
  let (host, port) := splitHost false hostPort
  let hostFits :=
    if host.isEmpty then
      kind = .other && port.isEmpty && allowsNoHost user (authority.length = cs.length)
    else if kind = .other then isOpaqueHost host
    else isWebHost host
  hostFits && isPort (port.drop 1)

def isDriveLetter : List Char → Bool
  | [c, d] => isAsciiLetter c && (d = ':' || d = '|')
  | _ => false

def isFilePath : List Char → Bool
  | a :: b :: rest =>
    if (a = '/' || a = '\\') && (b = '/' || b = '\\') then
      let host := rest.takeWhile fun c => !endsAuthority .file c
      host.isEmpty || isDriveLetter host || isWebHost host
    else true
  | _ => true

/-! ## URLs -/

/-- Drop the control characters and spaces at both ends, and tabs and line ends anywhere. -/
def clean (cs : List Char) : List Char :=
  let outer (c : Char) : Bool := c.toNat ≤ 32
  let trimmed := ((cs.dropWhile outer).reverse.dropWhile outer).reverse
  trimmed.filter fun c => c ≠ '\t' && c ≠ '\n' && c ≠ '\r'

def isUrl (cs : List Char) : Bool :=
  match scheme? (clean cs) with
  | none => false
  | some (name, rest) =>
    match SchemeKind.ofName name with
    | .file => isFilePath rest
    | .web => isAuthority .web (rest.dropWhile fun c => c = '/' || c = '\\')
    | .other =>
      match rest with
      | '/' :: '/' :: rest => isAuthority .other rest
      | _ => true

def isValid (s : String) : Bool :=
  isUrl s.toList

end FormRules.Url
