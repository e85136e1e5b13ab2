import FormRules.Text.Pieces

/-!
# Wildcard paths

A path whose names may hold wildcards: `?` stands for one character, `*` for any
run of characters, brackets for one character of a class, and a name `**` for
any number of folders.  All characters count, a leading dot as well.
-/

namespace FormRules

namespace Wildcard

/-! ## Pieces -/

inductive Piece where
  | char (c : Char)
  | anyChar
  | anyRun
  | anyDepth
  | oneOf (ranges : List (Char × Char))
  | noneOf (ranges : List (Char × Char))
deriving DecidableEq, Repr

def inRanges (c : Char) (ranges : List (Char × Char)) : Bool :=
  ranges.any fun r => r.1 ≤ c && c ≤ r.2

/-- Whether a list or what is left of it after dropping characters passes a test. -/
def anySuffix (test : List Char → Bool) : List Char → Bool
  | [] => test []
  | c :: cs => test (c :: cs) || anySuffix test cs

def accepts : List Piece → List Char → Bool
  | [], cs => cs.isEmpty
  | .char d :: ps, c :: cs => c = d && accepts ps cs
  | .anyChar :: ps, _ :: cs => accepts ps cs
  | .oneOf ranges :: ps, c :: cs => inRanges c ranges && accepts ps cs
  | .noneOf ranges :: ps, c :: cs => !inRanges c ranges && accepts ps cs
  | .anyRun :: ps, cs => anySuffix (accepts ps) cs
  | _ :: _, _ => false

def plain? : List Piece → Option (List Char)
  | [] => some []
  | .char c :: ps => (plain? ps).map (c :: ·)
  | _ :: _ => none

/-! ## Reading -/

inductive Reason where
  | tooManyStars
  /-- Two stars that are not a whole name. -/
  | partialDepth
  | openClass
deriving DecidableEq, Repr

def Reason.message : Reason → String
  | .tooManyStars => "wildcards are either regular \x60*\x60 or recursive \x60**\x60"
  | .partialDepth => "recursive wildcards must form a single path component"
  | .openClass => "invalid range pattern"

structure Fault where
  position : Nat
  reason : Reason
deriving DecidableEq, Repr

def Fault.message (f : Fault) : String :=
  "Pattern syntax error near position " ++ toString f.position ++ ": " ++ f.reason.message

def ranges : List Char → List (Char × Char)
  | [] => []
  | a :: '-' :: b :: rest => (a, b) :: ranges rest
  | a :: rest => (a, a) :: ranges rest

/-- Read a class behind its bracket; a closing bracket may be its first character. -/
def class? : List Char → Option (Piece × List Char)
  | '!' :: first :: more =>
    (Text.splitFirst ']' more).map fun (inside, rest) =>
      (.noneOf (ranges (first :: inside)), rest)
  | first :: more =>
    if first = '!' then none
    else
      (Text.splitFirst ']' more).map fun (inside, rest) =>
        (.oneOf (ranges (first :: inside)), rest)
  | [] => none

theorem length_of_splitFirst {sep : Char} {cs before after : List Char}
    (h : Text.splitFirst sep cs = some (before, after)) : after.length < cs.length := by
  have := (Text.eq_of_splitFirst h).1
  simp only [this, List.length_append, List.length_cons]
  omega

theorem length_of_class? {cs rest : List Char} {p : Piece} (h : class? cs = some (p, rest)) :
    rest.length < cs.length := by
  unfold class? at h
  split at h
  · obtain ⟨⟨a, b⟩, hs, he⟩ := Option.map_eq_some_iff.1 h
    have := length_of_splitFirst hs
    obtain ⟨-, rfl⟩ := Prod.mk.injEq .. ▸ he
    simp only [List.length_cons]
    omega
  · split at h
    · simp at h
    · obtain ⟨⟨a, b⟩, hs, he⟩ := Option.map_eq_some_iff.1 h
      have := length_of_splitFirst hs
      obtain ⟨-, rfl⟩ := Prod.mk.injEq .. ▸ he
      simp only [List.length_cons]
      omega
  · simp at h

/-- Read the pieces of the rest of a path of a certain length; `fresh` tells whether a
name starts here. -/
def readPieces (total : Nat) (fresh : Bool) (cs : List Char) : Except Fault (List Piece) :=
  let here := total - cs.length
  match cs with
  | [] => .ok []
  | '?' :: rest => (readPieces total false rest).map (.anyChar :: ·)
  | '*' :: '*' :: '*' :: _ => .error ⟨here + 2, .tooManyStars⟩
  | ['*', '*'] => if fresh then .ok [.anyDepth] else .error ⟨here - 1, .partialDepth⟩
  | '*' :: '*' :: c :: rest =>
    if !fresh then .error ⟨here - 1, .partialDepth⟩
    else if c = '/' then (readPieces total true rest).map (.anyDepth :: ·)
    else .error ⟨here + 2, .partialDepth⟩
  | '*' :: rest => (readPieces total false rest).map (.anyRun :: ·)
  | '[' :: rest =>
    match h : class? rest with
    | none => .error ⟨here, .openClass⟩
    | some (piece, after) =>
      have : after.length < rest.length := length_of_class? h
      (readPieces total false after).map (piece :: ·)
  | c :: rest => (readPieces total (c = '/') rest).map (.char c :: ·)
termination_by cs.length

/-! ## Paths -/

inductive Step where
  | name (s : String)
  | anyDepth
  | wild (pieces : List Piece)

def Step.ofPieces (ps : List Piece) : Step :=
  if ps = [.anyDepth] then .anyDepth
  else
    match plain? ps with
    | some cs => .name (String.ofList cs)
    | none => .wild ps

def Step.fits (name : String) : Step → Bool
  | .name s => name = s
  | .anyDepth => false
  | .wild ps => accepts ps name.toList

def readStep (cs : List Char) : Except Fault Step :=
  (readPieces cs.length true cs).map Step.ofPieces

/-- Names in which any number of folders is not asked for twice in a row. -/
def collapse : List Step → List Step
  | .anyDepth :: .anyDepth :: rest => collapse (.anyDepth :: rest)
  | step :: rest => step :: collapse rest
  | [] => []

/-- The names of a path: nothing follows a slash at its end. -/
def names (cs : List Char) : List (List Char) :=
  let parts := Text.pieces '/' cs
  if parts.getLast? = some [] then parts.dropLast else parts

end Wildcard

structure Wildcard where
  rooted : Bool
  steps : List Wildcard.Step
  foldersOnly : Bool

namespace Wildcard

def isMeant (pattern : String) : Bool :=
  pattern.toList.any fun c => c = '*' || c = '?' || c = '[' || c = '\x7b'

/-- Read a wildcard path: first as a whole, then name by name. -/
def ofText (pattern : String) : Except Fault Wildcard := do
  let cs := pattern.toList
  let _ ← readPieces cs.length true cs
  let rooted := cs.head? = some '/'
  let steps ← (names (if rooted then cs.drop 1 else cs)).mapM readStep
  return { rooted, steps := collapse steps, foldersOnly := cs.getLast? = some '/' }

end Wildcard

end FormRules
