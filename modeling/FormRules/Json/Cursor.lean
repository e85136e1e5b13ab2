import FormRules.Json.Fault

/-!
# Reading a JSON text step by step

A cursor is the rest of a text with the place it starts at.  A decoding step
moves the cursor, also when it fails: what follows a fault may still be looked
at to find the place that a message names.
-/

namespace FormRules.Json

/-! ## Cursors -/

def Position.after (p : Position) (c : Char) : Position :=
  if c = '\n' then ⟨p.line + 1, 0⟩ else ⟨p.line, p.column + c.utf8Size⟩

/-- The place a number of bytes further on, which may lie inside a character. -/
def Position.afterBytes (p : Position) : Nat → List Char → Position
  | 0, _ => p
  | _, [] => p
  | n + 1, c :: cs =>
    if c.utf8Size ≤ n + 1 then (p.after c).afterBytes (n + 1 - c.utf8Size) cs
    else ⟨p.line, p.column + (n + 1)⟩

structure Cursor where
  rest : List Char
  position : Position

def Cursor.start (cs : List Char) : Cursor :=
  ⟨cs, ⟨1, 0⟩⟩

def Cursor.ahead (c : Cursor) : Position :=
  c.position.afterBytes 1 c.rest

/-! ## Decoding steps -/

/-- A fault on its way out: the place may still be open, and the path grows at its front. -/
structure Failure where
  fault : Fault
  /-- The place, once it is settled. -/
  place : Option Position
  /-- The path below the value that is being read. -/
  path : List Segment

abbrev Decode (α : Type) := EStateM Failure Cursor α

namespace Decode

variable {α : Type}

def fail (fault : Fault) : Decode α := fun s =>
  .error ⟨fault, some s.position, []⟩ s

/-- Fail at the byte that comes next. -/
def failAhead (fault : Fault) : Decode α := fun s =>
  .error ⟨fault, some s.ahead, []⟩ s

/-- Fail and leave the place open; the value that is being read will settle it. -/
def failOpen (fault : Fault) : Decode α := fun s =>
  .error ⟨fault, none, []⟩ s

/-- Settle the place of a fault of this value at the place reached. -/
def placed (step : Decode α) : Decode α := fun s =>
  match step s with
  | .ok a s => .ok a s
  | .error e s => .error { e with place := some (e.place.getD s.position) } s

/-- Read a part of the value: faults inside it get its segment. -/
def within (segment : Segment) (step : Decode α) : Decode α := fun s =>
  match step s with
  | .ok a s => .ok a s
  | .error e s => .error { e with path := segment :: e.path } s

def peek : Decode (Option Char) := fun s =>
  .ok s.rest.head? s

def remaining : Decode Nat := fun s =>
  .ok s.rest.length s

def advance : Decode Unit := fun s =>
  match s.rest with
  | [] => .ok () s
  | c :: cs => .ok () ⟨cs, s.position.after c⟩

def isSpace (c : Char) : Bool :=
  c = ' ' || c = '\n' || c = '\t' || c = '\r'

def afterSpace : List Char → Position → Cursor
  | [], p => ⟨[], p⟩
  | c :: cs, p => if isSpace c then afterSpace cs (p.after c) else ⟨c :: cs, p⟩

def peekToken : Decode (Option Char) := fun s =>
  let t := afterSpace s.rest s.position
  .ok t.rest.head? t

/-- Run a step from the start of a text; what follows the value is not looked at. -/
def run (step : Decode α) (cs : List Char) : Except DecodeError α :=
  match step (Cursor.start cs) with
  | .ok a _ => .ok a
  | .error e s => .error ⟨e.path, e.fault, e.place.getD s.position⟩

end Decode

end FormRules.Json
