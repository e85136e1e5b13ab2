/-!
# Outputs of filters

Lists whose rest is computed only when it is asked for.  A filter may have many
outputs, and what uses them may stop early.
-/

namespace FormRules.Query

inductive Outputs (α : Type) where
  | done
  | next (item : α) (rest : Unit → Outputs α)

namespace Outputs

variable {α β : Type}

def one (a : α) : Outputs α :=
  .next a fun _ => .done

def ofList : List α → Outputs α
  | [] => .done
  | a :: as => .next a fun _ => ofList as

/-- The outputs of one list and then those of another one. -/
def append : Outputs α → (Unit → Outputs α) → Outputs α
  | .done, more => more ()
  | .next a rest, more => .next a fun _ => (rest ()).append more

def flatMap (f : α → Outputs β) : Outputs α → Outputs β
  | .done => .done
  | .next a rest => (f a).append fun _ => (rest ()).flatMap f

def filterMap (f : α → Option β) : Outputs α → Outputs β
  | .done => .done
  | .next a rest =>
    match f a with
    | some b => .next b fun _ => (rest ()).filterMap f
    | none => (rest ()).filterMap f

/-- The outputs before the first one with a property. -/
def before (stop : α → Bool) : Outputs α → Outputs α
  | .done => .done
  | .next a rest => if stop a then .done else .next a fun _ => (rest ()).before stop

def take : Nat → Outputs α → Outputs α
  | 0, _ => .done
  | _ + 1, .done => .done
  | 1, .next a _ => one a
  | n + 2, .next a rest => .next a fun _ => (rest ()).take (n + 1)

def drop : Nat → Outputs α → Outputs α
  | 0, s => s
  | _ + 1, .done => .done
  | n + 1, .next _ rest => (rest ()).drop n

def head? : Outputs α → Option α
  | .done => none
  | .next a _ => some a

end Outputs

/-! ## Outputs that may be faults -/

inductive Fault (ε : Type) where
  | thrown (value : ε)
  /-- A jump out of a label. -/
  | left (label : Nat)
  /-- The filter nests too deep. -/
  | exhausted

abbrev Results (ε α : Type) := Outputs (Except (Fault ε) α)

namespace Results

variable {ε α β : Type}

def value (a : α) : Results ε α :=
  .one (.ok a)

def fault (e : Fault ε) : Results ε α :=
  .one (.error e)

def ofExcept : Except ε α → Results ε α
  | .ok a => value a
  | .error e => fault (.thrown e)

/-- The outputs of a function at each value; faults stay. -/
def bind (s : Results ε α) (f : α → Results ε β) : Results ε β :=
  s.flatMap fun
    | .ok a => f a
    | .error e => fault e

/-- All values, or the first fault. -/
def values : Results ε α → Except (Fault ε) (List α)
  | .done => .ok []
  | .next (.ok a) rest => (values (rest ())).map (a :: ·)
  | .next (.error e) _ => .error e

end Results

end FormRules.Query
