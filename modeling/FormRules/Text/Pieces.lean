/-!
# Splitting and joining

A text is split at a separator character into pieces, and pieces are joined
again.  Joining the pieces of a text gives the text back, and no piece holds
the separator.

A line feed ends a line, and a carriage return right before it belongs to the line's
end; what follows the last line feed is a line only if there is something.
-/

namespace FormRules.Text

/-! ## All separators -/

/-- Split at every separator.  There is one piece more than there are separators. -/
def pieces (sep : Char) : List Char → List (List Char)
  | [] => [[]]
  | c :: cs =>
    if c = sep then [] :: pieces sep cs
    else
      match pieces sep cs with
      | [] => [[c]]
      | p :: ps => (c :: p) :: ps

def joinWith (sep : List Char) : List (List Char) → List Char
  | [] => []
  | [p] => p
  | p :: q :: ps => p ++ sep ++ joinWith sep (q :: ps)

theorem pieces_ne_nil (sep : Char) (cs : List Char) : pieces sep cs ≠ [] := by
  cases cs with
  | nil => simp [pieces]
  | cons c cs =>
      simp only [pieces]
      split
      · simp
      · split <;> simp

theorem joinWith_pieces (sep : Char) (cs : List Char) :
    joinWith [sep] (pieces sep cs) = cs := by
  induction cs with
  | nil => rfl
  | cons c cs ih =>
      simp only [pieces]
      split
      · rename_i h
        cases hp : pieces sep cs with
        | nil => exact absurd hp (pieces_ne_nil sep cs)
        | cons p ps => simp [joinWith, ← hp, ih, h]
      · cases hp : pieces sep cs with
        | nil => exact absurd hp (pieces_ne_nil sep cs)
        | cons p ps =>
            cases ps with
            | nil => simp_all [joinWith]
            | cons q ps => simp_all [joinWith]

theorem not_mem_of_mem_pieces {sep : Char} {cs p : List Char} (h : p ∈ pieces sep cs) :
    sep ∉ p := by
  induction cs generalizing p with
  | nil => simp_all [pieces]
  | cons c cs ih =>
      simp only [pieces] at h
      split at h
      · rcases List.mem_cons.1 h with rfl | h
        · simp
        · exact ih h
      · rename_i hc
        cases hp : pieces sep cs with
        | nil => exact absurd hp (pieces_ne_nil sep cs)
        | cons q qs =>
            simp only [hp] at h ih
            rcases List.mem_cons.1 h with rfl | h
            · have := ih List.mem_cons_self
              simp only [List.mem_cons, not_or]
              exact ⟨fun e => hc e.symm, this⟩
            · exact ih (List.mem_cons_of_mem q h)

theorem pieces_of_not_mem {sep : Char} {p : List Char} (h : sep ∉ p) : pieces sep p = [p] := by
  induction p with
  | nil => rfl
  | cons c cs ih =>
      simp only [List.mem_cons, not_or] at h
      have hc : c ≠ sep := fun e => h.1 e.symm
      simp [pieces, hc, ih h.2]

theorem pieces_append (sep : Char) (cs ds : List Char) :
    pieces sep (cs ++ sep :: ds) = pieces sep cs ++ pieces sep ds := by
  induction cs with
  | nil => simp [pieces]
  | cons c cs ih =>
      by_cases hc : c = sep
      · simp [pieces, hc, ih]
      · cases hp : pieces sep cs with
        | nil => exact absurd hp (pieces_ne_nil sep cs)
        | cons p ps => simp [pieces, hc, ih, hp]

theorem pieces_joinWith (sep : Char) {ps : List (List Char)} (h : ps ≠ []) :
    pieces sep (joinWith [sep] ps) = ps.flatMap (pieces sep) := by
  induction ps with
  | nil => exact absurd rfl h
  | cons p ps ih =>
      cases ps with
      | nil => simp [joinWith]
      | cons q ps =>
          have hr := ih (by simp)
          simp only [joinWith, List.append_assoc, List.singleton_append, pieces_append, hr,
            List.flatMap_cons]

def piecesOf (sep : Char) (s : String) : List String :=
  (pieces sep s.toList).map String.ofList

def joinTexts (sep : String) (ps : List String) : String :=
  String.ofList (joinWith sep.toList (ps.map String.toList))

/-! ## One separator -/

def splitFirst (sep : Char) : List Char → Option (List Char × List Char)
  | [] => none
  | c :: cs =>
    if c = sep then some ([], cs)
    else (splitFirst sep cs).map fun (before, after) => (c :: before, after)

def splitLast (sep : Char) : List Char → Option (List Char × List Char)
  | [] => none
  | c :: cs =>
    match splitLast sep cs with
    | some (before, after) => some (c :: before, after)
    | none => if c = sep then some ([], cs) else none

theorem eq_of_splitFirst {sep : Char} {cs before after : List Char}
    (h : splitFirst sep cs = some (before, after)) :
    cs = before ++ sep :: after ∧ sep ∉ before := by
  induction cs generalizing before with
  | nil => simp [splitFirst] at h
  | cons c cs ih =>
      simp only [splitFirst] at h
      split at h
      · simp_all
      · rename_i hc
        obtain ⟨⟨b, a⟩, hb, he⟩ := Option.map_eq_some_iff.1 h
        simp only [Prod.mk.injEq] at he
        obtain ⟨rfl, rfl⟩ := he
        obtain ⟨h1, h2⟩ := ih hb
        refine ⟨by simp [h1], ?_⟩
        simp only [List.mem_cons, not_or]
        exact ⟨fun e => hc e.symm, h2⟩

theorem splitFirst_append {sep : Char} {before : List Char} (h : sep ∉ before)
    (after : List Char) : splitFirst sep (before ++ sep :: after) = some (before, after) := by
  induction before with
  | nil => simp [splitFirst]
  | cons c before ih =>
      simp only [List.mem_cons, not_or] at h
      have hc : c ≠ sep := fun e => h.1 e.symm
      simp [splitFirst, hc, ih h.2]

theorem splitFirst_eq_none_iff {sep : Char} {cs : List Char} :
    splitFirst sep cs = none ↔ sep ∉ cs := by
  induction cs with
  | nil => simp [splitFirst]
  | cons c cs ih =>
      simp only [splitFirst]
      split
      · simp_all
      · rename_i hc
        simp only [Option.map_eq_none_iff, ih, List.mem_cons, not_or]
        exact ⟨fun h => ⟨fun e => hc e.symm, h⟩, fun h => h.2⟩

theorem eq_of_splitLast {sep : Char} {cs before after : List Char}
    (h : splitLast sep cs = some (before, after)) :
    cs = before ++ sep :: after ∧ sep ∉ after := by
  induction cs generalizing before with
  | nil => simp [splitLast] at h
  | cons c cs ih =>
      simp only [splitLast] at h
      split at h
      · rename_i b a hb
        simp only [Option.some.injEq, Prod.mk.injEq] at h
        obtain ⟨rfl, rfl⟩ := h
        obtain ⟨h1, h2⟩ := ih hb
        exact ⟨by simp [h1], h2⟩
      · rename_i hn
        split at h
        · simp only [Option.some.injEq, Prod.mk.injEq] at h
          obtain ⟨rfl, rfl⟩ := h
          refine ⟨by simp_all, ?_⟩
          clear ih
          induction cs with
          | nil => simp
          | cons d ds ihd =>
              simp only [splitLast] at hn
              split at hn
              · simp at hn
              · rename_i hd
                split at hn
                · simp at hn
                · rename_i hne
                  simp only [List.mem_cons, not_or]
                  exact ⟨fun e => hne e.symm, ihd hd⟩
        · simp at h

/-! ## Lines -/

def dropReturn (line : List Char) : List Char :=
  if line.getLast? = some '\r' then line.dropLast else line

def linesOf : List (List Char) → List (List Char)
  | [] => []
  | [last] => if last.isEmpty then [] else [last]
  | line :: next :: rest => dropReturn line :: linesOf (next :: rest)

def lines (cs : List Char) : List (List Char) :=
  linesOf (pieces '\n' cs)

@[simp] theorem lines_nil : lines [] = [] := rfl

theorem lines_of_no_feed {cs : List Char} (hn : '\n' ∉ cs) (hc : cs ≠ []) : lines cs = [cs] := by
  have hp : pieces '\n' cs = [cs] := by
    clear hc
    induction cs with
    | nil => rfl
    | cons c cs ih =>
        simp only [List.mem_cons, not_or] at hn
        simp [pieces, Ne.symm hn.1, ih hn.2]
  simp [lines, hp, linesOf, hc]

end FormRules.Text
