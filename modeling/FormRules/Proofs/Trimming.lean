import Mathlib.Data.List.TakeWhile
import FormRules.Text.Blank

/-!
# Trimmed texts

Trimming leaves a text whose ends are not blank, with no character that was not
there before, and it leaves such a text as it is.  Around what is left stood
nothing but blanks.
-/

namespace FormRules.Text

def IsTrimmed (cs : List Char) : Prop :=
  cs.head?.any isBlank = false ∧ cs.getLast?.any isBlank = false

instance (cs : List Char) : Decidable (IsTrimmed cs) :=
  inferInstanceAs (Decidable (_ ∧ _))

variable {cs : List Char}

/-! ## The start -/

theorem head?_trimStart (cs : List Char) : (trimStart cs).head?.any isBlank = false := by
  unfold trimStart
  induction cs with
  | nil => rfl
  | cons c cs ih =>
      cases h : isBlank c with
      | true => rwa [List.dropWhile_cons_of_pos h]
      | false => simp [h]

theorem trimStart_of_head? (h : cs.head?.any isBlank = false) : trimStart cs = cs := by
  cases cs with
  | nil => rfl
  | cons c cs =>
      have hc : isBlank c = false := by simpa using h
      simp [trimStart, hc]

/-! ## The end -/

theorem trimEnd_eq (cs : List Char) : trimEnd cs = (trimStart cs.reverse).reverse := rfl

theorem getLast?_trimEnd (cs : List Char) : (trimEnd cs).getLast?.any isBlank = false := by
  rw [trimEnd_eq, List.getLast?_reverse]
  exact head?_trimStart cs.reverse

theorem trimEnd_of_getLast? (h : cs.getLast?.any isBlank = false) : trimEnd cs = cs := by
  rw [← List.head?_reverse] at h
  rw [trimEnd_eq, trimStart_of_head? h, List.reverse_reverse]

theorem isPrefix_trimEnd (cs : List Char) : trimEnd cs <+: cs := by
  rw [trimEnd_eq, ← List.reverse_suffix, List.reverse_reverse]
  exact List.dropWhile_suffix isBlank

theorem head?_trimEnd (h : cs.head?.any isBlank = false) :
    (trimEnd cs).head?.any isBlank = false := by
  -- The first character goes only if all of them go, as what is left is a prefix.
  obtain ⟨tail, same⟩ := isPrefix_trimEnd cs
  cases front : trimEnd cs with
  | nil => rfl
  | cons c rest =>
      rw [front] at same
      rw [← same] at h
      exact h

/-! ## Both ends -/

theorem isTrimmed_trim (cs : List Char) : IsTrimmed (trim cs) :=
  ⟨head?_trimEnd (head?_trimStart cs), getLast?_trimEnd (trimStart cs)⟩

theorem trim_of_isTrimmed (h : IsTrimmed cs) : trim cs = cs := by
  rw [trim, trimStart_of_head? h.1, trimEnd_of_getLast? h.2]

theorem mem_of_mem_trim {c : Char} (h : c ∈ trim cs) : c ∈ cs := by
  have kept : c ∈ trimStart cs := (isPrefix_trimEnd (trimStart cs)).subset h
  exact (List.dropWhile_suffix isBlank).subset kept

theorem isTrimmed_of_no_blank (h : ∀ c ∈ cs, isBlank c = false) : IsTrimmed cs := by
  constructor
  · cases front : cs.head? with
    | none => rfl
    | some c => exact h c (List.mem_of_mem_head? front)
  · cases back : cs.getLast? with
    | none => rfl
    | some c => exact h c (List.mem_of_getLast? back)

/-! ## Padding -/

theorem not_mem_of_allBlank {c : Char} (blank : allBlank cs = true) (dark : isBlank c = false) :
    c ∉ cs := by
  intro mem
  rw [List.all_eq_true.1 blank c mem] at dark
  cases dark

variable {before after : List Char}

theorem trimStart_append (blank : allBlank before = true) (cs : List Char) :
    trimStart (before ++ cs) = trimStart cs :=
  List.dropWhile_append_of_pos (List.all_eq_true.1 blank)

theorem trimEnd_append (cs : List Char) (blank : allBlank after = true) :
    trimEnd (cs ++ after) = trimEnd cs := by
  have reversed : allBlank after.reverse = true := by
    rw [allBlank, List.all_reverse]
    exact blank
  rw [trimEnd_eq, List.reverse_append, trimStart_append reversed, ← trimEnd_eq]

theorem trim_padded (blankBefore : allBlank before = true) (blankAfter : allBlank after = true)
    (cs : List Char) : trim (before ++ (cs ++ after)) = trim cs := by
  rw [trim, trimStart_append blankBefore]
  cases h : allBlank cs with
  | true =>
      have all : allBlank (cs ++ after) = true := by
        rw [allBlank, List.all_append, Bool.and_eq_true]
        exact ⟨h, blankAfter⟩
      rw [← trim, trim_of_allBlank all, trim_of_allBlank h]
  | false =>
      have left : (trimStart cs).isEmpty = false := by
        rw [trimStart, List.isEmpty_eq_false_iff, Ne, List.dropWhile_eq_nil_iff,
          ← List.all_eq_true, ← allBlank, h]
        exact Bool.false_ne_true
      have starts : trimStart (cs ++ after) = trimStart cs ++ after := by
        rw [trimStart, List.dropWhile_append, ← trimStart, left]
        rfl
      rw [starts, trimEnd_append _ blankAfter, trim]

/-- What is trimmed off is blank. -/
theorem exists_padding (cs : List Char) : ∃ before after, allBlank before = true ∧
    allBlank after = true ∧ cs = before ++ (trim cs ++ after) := by
  have blank (cs : List Char) : allBlank (cs.takeWhile isBlank) = true := List.all_takeWhile
  have start : cs = cs.takeWhile isBlank ++ trimStart cs := List.takeWhile_append_dropWhile.symm
  have back : trimStart cs =
      trim cs ++ ((trimStart cs).reverse.takeWhile isBlank).reverse := by
    rw [trim, trimEnd, ← List.reverse_append, List.takeWhile_append_dropWhile, List.reverse_reverse]
  refine ⟨_, _, blank cs, ?_, start.trans (congrArg _ back)⟩
  rw [allBlank, List.all_reverse]
  exact blank _

/-- Trimming finds the only text with ends that are not blank and blanks alone around it. -/
theorem trim_eq_iff {name : List Char} (trimmed : IsTrimmed name) : trim cs = name ↔
    ∃ before after, allBlank before = true ∧ allBlank after = true ∧
      cs = before ++ (name ++ after) := by
  constructor
  · rintro rfl
    exact exists_padding cs
  · rintro ⟨before, after, blankBefore, blankAfter, rfl⟩
    rw [trim_padded blankBefore blankAfter, trim_of_isTrimmed trimmed]

theorem trim_eq_nil_iff : trim cs = [] ↔ allBlank cs = true := by
  constructor
  · intro none
    obtain ⟨before, after, blankBefore, blankAfter, same⟩ := exists_padding cs
    rw [same, none, List.nil_append, allBlank, List.all_append, Bool.and_eq_true]
    exact ⟨blankBefore, blankAfter⟩
  · exact trim_of_allBlank

end FormRules.Text
