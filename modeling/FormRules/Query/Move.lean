import FormRules.Query.Datum
import FormRules.Query.Outputs

/-!
# Moves in values

Steps from a value to its parts, and the change of the parts in place.
-/

namespace FormRules.Query

/-! ## Places -/

/-- A value, and where it was found if that is being tracked. -/
structure Place where
  value : Datum
  /-- The keys from the start to the value, the last one first. -/
  path : Option (List Datum)

def Place.free (d : Datum) : Place :=
  ⟨d, none⟩

def Place.part (p : Place) (key value : Datum) : Place :=
  ⟨value, p.path.map (key :: ·)⟩

abbrev Yield (α : Type) := Results Datum α

def Yield.data (s : Yield Place) : Yield Datum :=
  Results.bind s fun p => Results.value p.value

mutual

/-- A place and the places below it, down to a depth. -/
def Place.descend : Nat → Place → Outputs Place
  | 0, p => .one p
  | fuel + 1, p =>
    .next p fun _ =>
      match p.value.parts with
      | .ok parts => Place.descendAll fuel p parts
      | .error _ => .done

def Place.descendAll : Nat → Place → List (Datum × Datum) → Outputs Place
  | _, _, [] => .done
  | 0, _, _ => .done
  | fuel + 1, p, (key, value) :: rest =>
    ((p.part key value).descend fuel).append fun _ => Place.descendAll fuel p rest

end

/-! ## Moves -/

/-- A step from a value to some of its parts; an optional one is skipped where there are none. -/
inductive Move where
  | index (key : Datum) (isOptional : Bool)
  | slice (first last : Datum) (isOptional : Bool)
  | each (isOptional : Bool)

namespace Move

def isOptional : Move → Bool
  | .index _ b | .slice _ _ b | .each b => b

def rangeKey (first last : Datum) : Datum :=
  .object [("start", first), ("end", last)]

def reach (m : Move) (p : Place) : Except Datum (List Place) :=
  match m with
  | .index key _ => do return [p.part key (← p.value.index key)]
  | .slice first last _ => do
    return [p.part (rangeKey first last) (← p.value.slice first last)]
  | .each _ => do return (← p.value.parts).map fun kv => p.part kv.1 kv.2

def apply (m : Move) (p : Place) : Yield Place :=
  match m.reach p with
  | .ok ps => .ofList (ps.map .ok)
  | .error e => if m.isOptional then .done else Results.fault (.thrown e)

def applyAll : List Move → Place → Yield Place
  | [], p => Results.value p
  | m :: ms, p => Results.bind (m.apply p) (applyAll ms)

abbrev Change := Datum → Yield Datum

def Change.first (f : Change) (d : Datum) : Except (Fault Datum) (Option Datum) :=
  match (f d).head? with
  | none => .ok none
  | some (.ok x) => .ok (some x)
  | some (.error e) => .error e

/-- Remove the member under a key; the last member takes its place. -/
def removeMember (key : String) (ms : List (String × Datum)) : List (String × Datum) :=
  match ms.getLast? with
  | none => []
  | some last =>
    if last.1 = key then ms.dropLast
    else ms.dropLast.map fun m => if m.1 = key then last else m

def changeMembers (f : Change) :
    List (String × Datum) → Except (Fault Datum) (List (String × Datum))
  | [] => .ok []
  | (key, x) :: rest => do
    let y ← Change.first f x
    let ys ← changeMembers f rest
    return match y with
      | some y => (key, y) :: ys
      | none => ys

/-- Change some items; a change may put several in place of one. -/
def changeItems (f : Change) : List Datum → Except (Fault Datum) (List Datum)
  | [] => .ok []
  | x :: rest => do return (← Results.values (f x)) ++ (← changeItems f rest)

/-- What becomes of a value that a move is impossible on. -/
def impossible (m : Move) (d e : Datum) : Except (Fault Datum) Datum :=
  if m.isOptional then .ok d else .error (.thrown e)

def change (m : Move) (f : Change) (d : Datum) : Except (Fault Datum) Datum :=
  match m, d with
  | .index (.text key) _, .object ms => do
    match Entries.get? key ms with
    | some old =>
      match ← Change.first f old with
      | some new => return .object (Entries.insert key new ms)
      | none => return .object (removeMember key ms)
    | none =>
      match ← Change.first f .null with
      | some new => return .object (Entries.insert key new ms)
      | none => return d
  | .index (.int i) _, .array xs =>
    match Datum.place? i xs.length with
    | none => m.impossible d (.text ("index " ++ (Datum.int i).toText ++ " out of bounds"))
    | some k => do
      match ← Change.first f (xs[k]?.getD .null) with
      | some new => return .array (xs.set k new)
      | none => return .array (xs.eraseIdx k)
  | .index (.object ms) _, d =>
    match Entries.get? "start" ms, Entries.get? "end" ms with
    | some first, some last => range first last d
    | _, _ => m.impossible d (d.badIndex (.object ms))
  | .slice first last _, d => range first last d
  | .each _, .array xs => do return .array (← changeItems f xs)
  | .each _, .object ms => do return .object (← changeMembers f ms)
  | .each _, d => m.impossible d (d.badKind "iterable (array or object)")
  | .index key _, d => m.impossible d (d.badIndex key)
where
  range (first last d : Datum) : Except (Fault Datum) Datum :=
    match d, Datum.boundOf first, Datum.boundOf last with
    | .array xs, .ok a, .ok b =>
      let lo := Datum.bound a xs.length 0
      let hi := max lo (Datum.bound b xs.length xs.length)
      do
        match ← Change.first f (.array ((xs.take hi).drop lo)) with
        | some (.array ys) => return .array (xs.take lo ++ ys ++ xs.drop hi)
        | some y => throw (.thrown (y.badKind "array"))
        | none => return .array (xs.take lo ++ xs.drop hi)
    | .array _, .error e, _ => m.impossible d e
    | .array _, _, .error e => m.impossible d e
    | d, _, _ => m.impossible d (d.badKind "array")

def changeAll (f : Change) : List Move → Datum → Except (Fault Datum) Datum
  | [], d => do return (← Change.first f d).getD .null
  | [m], d => m.change f d
  | m :: n :: ms, d => m.change (fun x => .one (changeAll f (n :: ms) x)) d

end Move

end FormRules.Query
