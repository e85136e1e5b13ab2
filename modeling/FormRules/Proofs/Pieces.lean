import Mathlib.Data.List.Basic
import FormRules.Text.Pieces

/-!
# Pieces of texts

What it means to split a text at a separator, said without the splitting: the
pieces hold no separator, and joined they are the text.  Splitting finds the only
pieces that do, and splitting at the last separator the only two parts of which the
second one holds none.
-/

namespace FormRules.Text

/-- The pieces of a text between separators: at least one, none of which holds a separator, and
joined again they are the text. -/
structure SplitsInto (sep : Char) (s : String) (ps : List String) : Prop where
  ne_nil : ps ≠ []
  free : ∀ p ∈ ps, sep ∉ p.toList
  joined : joinTexts (String.singleton sep) ps = s

theorem piecesOf_of_not_mem {sep : Char} {p : String} (free : sep ∉ p.toList) :
    piecesOf sep p = [p] := by
  unfold piecesOf
  rw [pieces_of_not_mem free, List.map_singleton, String.ofList_toList]

theorem not_mem_of_mem_piecesOf {sep : Char} {s p : String} (h : p ∈ piecesOf sep s) :
    sep ∉ p.toList := by
  obtain ⟨cs, hcs, rfl⟩ := List.mem_map.1 h
  rw [String.toList_ofList]
  exact not_mem_of_mem_pieces hcs

theorem piecesOf_joinTexts_eq_flatMap {sep : Char} {ps : List String} (ne : ps ≠ []) :
    piecesOf sep (joinTexts (String.singleton sep) ps) = ps.flatMap (piecesOf sep) := by
  unfold piecesOf joinTexts
  rw [String.toList_ofList, String.toList_singleton, pieces_joinWith sep (by simpa using ne),
    List.flatMap_map, List.map_flatMap]

theorem flatMap_piecesOf_eq_self_iff {sep : Char} {ps : List String} :
    ps.flatMap (piecesOf sep) = ps ↔ ∀ p ∈ ps, sep ∉ p.toList := by
  constructor
  · intro same p hp
    rw [← same] at hp
    obtain ⟨s, -, piece⟩ := List.mem_flatMap.1 hp
    exact not_mem_of_mem_piecesOf piece
  · intro free
    rw [List.flatMap_congr fun p hp => piecesOf_of_not_mem (free p hp), List.flatMap_singleton']

theorem piecesOf_joinTexts {sep : Char} {ps : List String} (ne : ps ≠ [])
    (free : ∀ p ∈ ps, sep ∉ p.toList) :
    piecesOf sep (joinTexts (String.singleton sep) ps) = ps := by
  rw [piecesOf_joinTexts_eq_flatMap ne, flatMap_piecesOf_eq_self_iff.2 free]

theorem splitsInto_piecesOf (sep : Char) (s : String) : SplitsInto sep s (piecesOf sep s) where
  ne_nil := by simp [piecesOf, pieces_ne_nil]
  free := fun p => not_mem_of_mem_piecesOf
  joined := by
    unfold joinTexts piecesOf
    rw [List.map_map, String.toList_singleton]
    have chars : String.toList ∘ String.ofList = id := by
      funext cs
      simp
    rw [chars, List.map_id, joinWith_pieces, String.ofList_toList]

theorem SplitsInto.eq_piecesOf {sep : Char} {s : String} {ps : List String}
    (split : SplitsInto sep s ps) : ps = piecesOf sep s := by
  rw [← split.joined, piecesOf_joinTexts split.ne_nil split.free]

/-! ## The last separator -/

theorem splitLast_eq_none_iff {sep : Char} {cs : List Char} : splitLast sep cs = none ↔ sep ∉ cs := by
  induction cs with
  | nil => simp [splitLast]
  | cons c cs ih =>
      cases rest : splitLast sep cs with
      | some parts =>
          have later : sep ∈ cs := by
            by_contra free
            rw [ih.2 free] at rest
            cases rest
          simp [splitLast, rest, later]
      | none =>
          have free := ih.1 rest
          simp [splitLast, rest, free, eq_comm]

theorem splitLast_eq_some_iff {sep : Char} {cs before after : List Char} :
    splitLast sep cs = some (before, after) ↔ cs = before ++ sep :: after ∧ sep ∉ after := by
  constructor
  · exact eq_of_splitLast
  · rintro ⟨rfl, free⟩
    induction before with
    | nil => simp [splitLast, splitLast_eq_none_iff.2 free]
    | cons c before ih => simp [splitLast, ih]

end FormRules.Text
