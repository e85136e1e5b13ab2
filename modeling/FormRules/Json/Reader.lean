import FormRules.Json.Scan

/-!
# Reading values

Arrays, objects and whole values.  A container is entered with the number of
further levels that may be nested in it; a value that would go deeper is
refused before its bracket is read.
-/

namespace FormRules.Json.Decode

variable {α : Type}

/-! ## Containers -/

/-- How many levels of arrays and objects a text may have, and one more. -/
def depthLimit : Nat := 128

/--
Read a container behind its opening bracket and then its closing bracket.  The
latter is looked at also after a fault, which may settle the fault's place.
-/
def closing (close : Decode Unit) (body : Decode α) : Decode α := fun s =>
  match body s with
  | .ok a s =>
    match close s with
    | .ok _ s => .ok a s
    | .error e s => .error e s
  | .error e s =>
    match close s with
    | .ok _ s => .error e s
    | .error _ s => .error e s

def closeArray : Decode Unit := do
  match ← peekToken with
  | none => failAhead .eofInList
  | some c =>
    if c = ']' then advance
    else if c = ',' then
      advance
      if (← peekToken) = some ']' then failAhead .trailingComma else failAhead .trailingCharacters
    else failAhead .trailingCharacters

def closeObject : Decode Unit := do
  match ← peekToken with
  | none => failAhead .eofInObject
  | some c =>
    if c = '}' then advance
    else if c = ',' then failAhead .trailingComma
    else failAhead .trailingCharacters

def inArray (depth : Nat) (body : Decode α) : Decode α := do
  if depth = 0 then failAhead .tooDeep
  else
    advance
    closing closeArray body

def inObject (depth : Nat) (body : Decode α) : Decode α := do
  if depth = 0 then failAhead .tooDeep
  else
    advance
    closing closeObject body

/-! ## Items -/

/-- Whether another item follows; the comma before it is read. -/
def nextItem (first : Bool) : Decode Bool := do
  match ← peekToken with
  | none => failAhead .eofInList
  | some c =>
    if c = ']' then return false
    else if first then return true
    else if c = ',' then
      advance
      match ← peekToken with
      | none => failAhead .eofInValue
      | some d => if d = ']' then failAhead .trailingComma else return true
    else failAhead .listCommaWanted

def items (item : Nat → Decode α) : Nat → Nat → Decode (List α)
  | 0, _ => return []
  | fuel + 1, index => do
    if ← nextItem (index = 0) then
      let a ← within (.item index) (item index)
      return a :: (← items item fuel (index + 1))
    else return []

def allItems (item : Nat → Decode α) : Decode (List α) := do
  items item ((← remaining) + 1) 0

/-! ## Members -/

def nextMember (first : Bool) : Decode Bool := do
  match ← peekToken with
  | none => failAhead .eofInObject
  | some c =>
    if c = '}' then return false
    else if first then
      if c = '"' then return true else failAhead .keyNotString
    else if c = ',' then
      advance
      match ← peekToken with
      | none => failAhead .eofInValue
      | some d =>
        if d = '"' then return true
        else if d = '}' then failAhead .trailingComma
        else failAhead .keyNotString
    else failAhead .objectCommaWanted

def nextKey (first : Bool) : Decode (Option String) :=
  within .unread do
    if ← nextMember first then
      advance
      return some (← stringBody)
    else return none

def colon : Decode Unit := do
  match ← peekToken with
  | none => failAhead .eofInObject
  | some c => if c = ':' then advance else failAhead .colonWanted

/--
Read the members of an object, each under its key.  A key may be refused by the
keys before it.
-/
def members (refuse : List String → String → Option Fault) (member : String → Decode α) :
    Nat → List String → Decode (List (String × α))
  | 0, _ => return []
  | fuel + 1, seen => do
    match ← nextKey seen.isEmpty with
    | none => return []
    | some key =>
      match refuse seen key with
      | some fault => failOpen fault
      | none =>
        colon
        let a ← within (.member key) (member key)
        return (key, a) :: (← members refuse member fuel (key :: seen))

def allMembers (refuse : List String → String → Option Fault) (member : String → Decode α) :
    Decode (List (String × α)) := do
  members refuse member ((← remaining) + 1) []

/-- Every key is welcome; the last value of a repeated one counts. -/
def anyKey (_seen : List String) (_key : String) : Option Fault :=
  none

/-- Refuse the second occurrence of a known key. -/
def onceEach (known : List String) (seen : List String) (key : String) : Option Fault :=
  if known.contains key && seen.contains key then some (.duplicateField key) else none

/-! ## Values -/

def anyNumber : Decode Number := do
  if (← peek) = some '-' then
    advance
    numberBody true
  else numberBody false

def startsNumber (c : Char) : Bool :=
  c = '-' || Text.isAsciiDigit c

def scalar (c : Char) : Decode Json := do
  if c = 'n' then advance; word ['u', 'l', 'l']; return .null
  else if c = 't' then advance; word ['r', 'u', 'e']; return .bool true
  else if c = 'f' then advance; word ['a', 'l', 's', 'e']; return .bool false
  else if c = '"' then advance; return .string (← stringBody)
  else if startsNumber c then return .number (← anyNumber)
  else failAhead .valueWanted

/-- Read any value.  The argument counts the levels that it may have, and one more. -/
def value : Nat → Decode Json
  | 0 => failAhead .tooDeep
  | depth + 1 => placed do
    match ← peekToken with
    | none => failAhead .eofInValue
    | some c =>
      if c = '[' then
        return .array (← inArray depth (allItems fun _ => value depth))
      else if c = '{' then
        return .object (Entries.ofList (← inObject depth (allMembers anyKey fun _ => value depth)))
      else scalar c

/-! ## Values of a wanted shape -/

def mismatch (wanted : String) (c : Char) : Decode α := do
  if c = '[' then failOpen (.wrongType .sequence wanted)
  else if c = '{' then failOpen (.wrongType .map wanted)
  else
    let v ← scalar c
    failOpen (.wrongType (.ofValue v) wanted)

/-- Read a value whose first character selects how; `none` says that it does not fit. -/
def expecting (wanted : String) (choose : Char → Option (Decode α)) : Decode α := placed do
  match ← peekToken with
  | none => failAhead .eofInValue
  | some c =>
    match choose c with
    | some step => step
    | none => mismatch wanted c

def string (wanted : String) : Decode String :=
  expecting wanted fun c => if c = '"' then some (do advance; stringBody) else none

def bool : Decode Bool :=
  expecting "a boolean" fun c =>
    if c = 't' then some (do advance; word ['r', 'u', 'e']; return true)
    else if c = 'f' then some (do advance; word ['a', 'l', 's', 'e']; return false)
    else none

def unit : Decode Unit :=
  expecting "unit" fun c =>
    if c = 'n' then some (do advance; word ['u', 'l', 'l']) else none

def list (item : Nat → Decode α) (depth : Nat) : Decode (List α) :=
  expecting "a sequence" fun c =>
    if c = '[' then some (inArray (depth - 1) (allItems fun _ => item (depth - 1))) else none

def map (member : Nat → Decode α) (depth : Nat) : Decode (List (String × α)) :=
  expecting "a map" fun c =>
    if c = '{' then
      some (inObject (depth - 1) (allMembers anyKey fun _ => member (depth - 1)))
    else none

/-! ## Values that do not matter -/

def skipString : Nat → Decode Unit
  | 0 => fail .eofInString
  | fuel + 1 => do
    match ← peek with
    | none => fail .eofInString
    | some c =>
      if c = '"' then advance
      else if c = '\\' then
        advance
        match ← peek with
        | none => fail .eofInString
        | some d =>
          if (simpleEscape? d).isSome then advance
          else if d = 'u' then
            advance
            let _ ← hexEscape
          else failAhead .badEscape
        skipString fuel
      else if c.toNat < 32 then fail .controlCharacter
      else
        advance
        skipString fuel

def skipExponent : Decode Unit := do
  advance
  let sign ← peek
  if sign = some '+' || sign = some '-' then advance
  match ← peek with
  | none => fail .badNumber
  | some c => if Text.isAsciiDigit c then let _ ← digitRun else failAhead .badNumber

def skipNumber : Decode Unit := do
  match ← peek with
  | none => fail .badNumber
  | some c =>
    if !Text.isAsciiDigit c then failAhead .badNumber
    else
      if c = '0' then
        advance
        match ← peek with
        | some d => if Text.isAsciiDigit d then failAhead .badNumber
        | none => pure ()
      else
        let _ ← digitRun
      if (← peek) = some '.' then
        advance
        let ds ← digitRun
        if ds.isEmpty then failAhead .badNumber
      if startsExponent (← peek) then skipExponent

def eofIn (isArray : Bool) : Fault :=
  if isArray then .eofInList else .eofInObject

def skipKey : Decode Unit := do
  match ← peekToken with
  | none => failAhead .eofInObject
  | some c =>
    if c = '"' then
      advance
      skipString ((← remaining) + 1)
      colon
    else failAhead .keyNotString

/--
Pass a value of any depth.  The stack lists the containers that are open, `true`
for an array, innermost first; `opened` says that the innermost one has just
been opened, and `done` that a value has just been passed.
-/
def skipParts : Nat → List Bool → (opened done : Bool) → Decode Unit
  | 0, _, _, _ => return ()
  | _ + 1, [], _, true => return ()
  | fuel + 1, isArray :: stack, opened, true => do
    match ← peekToken with
    | none => failAhead (eofIn isArray)
    | some c =>
      if c = (if isArray then ']' else '}') then
        advance
        skipParts fuel stack false true
      else if opened then
        if isArray then skipParts fuel (isArray :: stack) false false
        else
          skipKey
          skipParts fuel (isArray :: stack) false false
      else if c = ',' then
        advance
        if !isArray then skipKey
        skipParts fuel (isArray :: stack) false false
      else failAhead (if isArray then .listCommaWanted else .objectCommaWanted)
  | fuel + 1, stack, _, false => do
    match ← peekToken with
    | none => failAhead .eofInValue
    | some c =>
      if c = '[' then
        advance
        skipParts fuel (true :: stack) true true
      else if c = '{' then
        advance
        skipParts fuel (false :: stack) true true
      else
        if c = '"' then
          advance
          skipString ((← remaining) + 1)
        else if c = '-' then
          advance
          skipNumber
        else if Text.isAsciiDigit c then skipNumber
        else
          let _ ← scalar c
        skipParts fuel stack false true

def skipValue : Decode Unit := do
  skipParts (2 * (← remaining) + 2) [] false false

end FormRules.Json.Decode

namespace FormRules.Json

def ofText (s : String) : Except DecodeError Json :=
  (Decode.value Decode.depthLimit).run s.toList

end FormRules.Json
