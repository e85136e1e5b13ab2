import FormRules.Pattern.Regex

/-!
# What a pattern matches

An expression is run on all places of a text at once.  Here its matches are said
one by one, as a relation between the place where a match starts and the place
where it ends, and running it finds exactly those.  A repetition without an upper
bound is run only as often as there are places: a round that goes nowhere can be
left out, and every other one goes forward.
-/

namespace FormRules.Pattern

/-! ## Matches -/

inductive Steps (R : Nat → Nat → Prop) : Nat → Nat → Nat → Prop
  | none (i : Nat) : Steps R 0 i i
  | step {n i j k : Nat} (first : R i j) (later : Steps R n j k) : Steps R (n + 1) i k

namespace Steps

variable {R : Nat → Nat → Prop}

theorem append {m n i j k : Nat} (first : Steps R m i j) (later : Steps R n j k) :
    Steps R (m + n) i k := by
  induction first with
  | none => simpa using later
  | step one _ ih =>
      rw [Nat.succ_add]
      exact .step one (ih later)

theorem split {m n i k : Nat} (steps : Steps R (m + n) i k) :
    ∃ j, Steps R m i j ∧ Steps R n j k := by
  induction m generalizing i with
  | zero => exact ⟨i, .none i, by simpa using steps⟩
  | succ m ih =>
      rw [Nat.succ_add] at steps
      cases steps with
      | step one rest =>
          obtain ⟨j, first, later⟩ := ih rest
          exact ⟨j, .step one first, later⟩

end Steps

mutual

/-- Whether an expression matches what is between two places of a text. -/
def Expr.Matches (text : Array Char) : Expr → Nat → Nat → Prop
  | .empty, i, j => i = j
  | .chars set, i, j => j = i + 1 ∧ ∃ c, text[i]? = some c ∧ set.contains c = true
  | .condition c, i, j => i = j ∧ c.holds text i = true
  | .concat es, i, j => Expr.MatchesInRow text es i j
  | .alt es, i, j => Expr.MatchesAny text es i j
  | .repeated least most body, i, j =>
    ∃ n, least ≤ n ∧ (∀ m ∈ most, n ≤ max least m) ∧ Steps (body.Matches text) n i j
  | .capture body, i, j => body.Matches text i j

def Expr.MatchesInRow (text : Array Char) : List Expr → Nat → Nat → Prop
  | [], i, k => i = k
  | e :: es, i, k => ∃ j, e.Matches text i j ∧ Expr.MatchesInRow text es j k

def Expr.MatchesAny (text : Array Char) : List Expr → Nat → Nat → Prop
  | [], _, _ => False
  | e :: es, i, j => e.Matches text i j ∨ Expr.MatchesAny text es i j

end

/-! ## Sets of places -/

namespace Places

variable {size : Nat}

def Within (size : Nat) (places : Places) : Prop :=
  ∀ i, places.testBit i = true → i ≤ size

theorem testBit_all (size i : Nat) : (Places.all size).testBit i = decide (i < size + 1) :=
  Nat.testBit_two_pow_sub_one (size + 1) i

theorem testBit_filter (test : Nat → Bool) (places : Places) (count j : Nat) :
    (places.filter test count).testBit j = true ↔
      j < count ∧ places.testBit j = true ∧ test j = true := by
  induction count with
  | zero => simp [Places.filter]
  | succ n ih =>
      have only : (1 <<< n).testBit j = decide (n = j) := by
        rw [Nat.one_shiftLeft, Nat.testBit_two_pow]
      unfold Places.filter
      split
      · next kept =>
        rw [Bool.and_eq_true] at kept
        rw [Nat.testBit_or, Bool.or_eq_true, ih, only, decide_eq_true_eq]
        grind
      · next dropped =>
        rw [Bool.and_eq_true] at dropped
        rw [ih]
        grind

/-! ### Functions that take the steps of a relation -/

/-- A function from sets of places to sets of places takes the steps of a relation: it leads to
just those places that a member is related to, and on a text no step goes back or leaves it. -/
structure Takes (size : Nat) (f : Places → Places) (R : Nat → Nat → Prop) : Prop where
  bits : ∀ places : Places, places.Within size → ∀ j,
    (f places).testBit j = true ↔ ∃ i, places.testBit i = true ∧ R i j
  forward : ∀ i j, i ≤ size → R i j → i ≤ j ∧ j ≤ size

namespace Takes

variable {f g : Places → Places} {R S : Nat → Nat → Prop}

theorem within (takes : Takes size f R) {places : Places} (inside : places.Within size) :
    (f places).Within size := by
  intro j reached
  obtain ⟨i, start, related⟩ := (takes.bits places inside j).1 reached
  exact (takes.forward i j (inside i start) related).2

theorem imp (takes : Takes size f R) (same : ∀ i j, R i j ↔ S i j) : Takes size f S := by
  have eq : R = S := by
    funext i j
    exact propext (same i j)
  rwa [← eq]

theorem stay : Takes size id (· = ·) where
  bits := by simp
  forward := by
    rintro i j inside rfl
    exact ⟨Nat.le_refl i, inside⟩

theorem andThen (first : Takes size f R) (second : Takes size g S) :
    Takes size (fun places => g (f places)) fun i k => ∃ j, R i j ∧ S j k where
  bits := by
    intro places inside k
    rw [second.bits _ (first.within inside)]
    constructor
    · rintro ⟨j, reached, later⟩
      obtain ⟨i, start, earlier⟩ := (first.bits places inside j).1 reached
      exact ⟨i, start, j, earlier, later⟩
    · rintro ⟨i, start, j, earlier, later⟩
      exact ⟨j, (first.bits places inside j).2 ⟨i, start, earlier⟩, later⟩
  forward := by
    rintro i k inside ⟨j, earlier, later⟩
    have here := first.forward i j inside earlier
    have there := second.forward j k here.2 later
    exact ⟨Nat.le_trans here.1 there.1, there.2⟩

theorem either (one : Takes size f R) (other : Takes size g S) :
    Takes size (fun places => f places ||| g places) fun i j => R i j ∨ S i j where
  bits := by
    intro places inside j
    rw [Nat.testBit_or, Bool.or_eq_true, one.bits places inside, other.bits places inside]
    simp only [and_or_left, exists_or]
  forward := by
    rintro i j inside (here | there)
    · exact one.forward i j inside here
    · exact other.forward i j inside there

/-! ### Repetitions -/

theorem zero (takes : Takes size f R) : f 0 = 0 := by
  apply Nat.eq_of_testBit_eq
  intro j
  rw [Nat.zero_testBit, Bool.eq_false_iff, Ne, takes.bits 0 (by simp [Within])]
  simp

theorem steps_forward (takes : Takes size f R) {n i j : Nat} (inside : i ≤ size)
    (steps : Steps R n i j) : i ≤ j ∧ j ≤ size := by
  induction steps with
  | none i => exact ⟨Nat.le_refl i, inside⟩
  | step first _ ih =>
      have here := takes.forward _ _ inside first
      have there := ih here.2
      exact ⟨Nat.le_trans here.1 there.1, there.2⟩

theorem iterate (takes : Takes size f R) (n : Nat) :
    Takes size (Places.iterate f n) (Steps R n) where
  bits := by
    induction n with
    | zero =>
        intro places _ j
        constructor
        · exact fun reached => ⟨j, reached, .none j⟩
        · rintro ⟨i, start, ⟨⟩⟩
          exact start
    | succ n ih =>
        intro places inside k
        have round : (Places.iterate f (n + 1) places).testBit k = true ↔
            (Places.iterate f n (f places)).testBit k = true := by
          rw [Places.iterate]
          split
          · next empty =>
            have still : Places.iterate f n 0 = 0 := by
              cases n <;> rfl
            rw [empty, takes.zero, still]
          · exact Iff.rfl
        rw [round, ih _ (takes.within inside)]
        constructor
        · rintro ⟨j, reached, later⟩
          obtain ⟨i, start, first⟩ := (takes.bits places inside j).1 reached
          exact ⟨i, start, .step first later⟩
        · rintro ⟨i, start, ⟨⟩⟩
          next j first later => exact ⟨j, (takes.bits places inside j).2 ⟨i, start, first⟩, later⟩
  forward := fun _ _ inside => takes.steps_forward inside

/-- A repetition needs no more rounds than it goes places forward: a round that goes nowhere can be
left out. -/
theorem exists_fewer_steps (takes : Takes size f R) {n i j : Nat} (inside : i ≤ size)
    (steps : Steps R n i j) : ∃ m, m ≤ n ∧ i + m ≤ j ∧ Steps R m i j := by
  induction steps with
  | none i => exact ⟨0, Nat.le_refl 0, Nat.le_refl i, .none i⟩
  | @step n i j k first later ih =>
      have here := takes.forward i j inside first
      obtain ⟨m, fewer, ahead, rest⟩ := ih here.2
      rcases Nat.eq_or_lt_of_le here.1 with same | further
      · subst same
        exact ⟨m, by omega, ahead, rest⟩
      · exact ⟨m + 1, by omega, by omega, .step first rest⟩

theorem testBit_close (takes : Takes size f R) (fuel : Nat) {places : Places}
    (inside : places.Within size) (j : Nat) : (Places.close f fuel places).testBit j = true ↔
      ∃ n ≤ fuel, ∃ i, places.testBit i = true ∧ Steps R n i j := by
  induction fuel generalizing places with
  | zero =>
      constructor
      · exact fun reached => ⟨0, Nat.le_refl 0, j, reached, .none j⟩
      · rintro ⟨n, none, i, start, steps⟩
        obtain rfl := Nat.le_zero.1 none
        cases steps
        exact start
  | succ fuel ih =>
      have more (k : Nat) : (places ||| f places).testBit k = true ↔
          places.testBit k = true ∨ ∃ i, places.testBit i = true ∧ R i k := by
        rw [Nat.testBit_or, Bool.or_eq_true, takes.bits places inside]
      have wider : (places ||| f places).Within size := by
        intro k reached
        rcases (more k).1 reached with start | ⟨i, start, related⟩
        · exact inside k start
        · exact (takes.forward i k (inside i start) related).2
      unfold Places.close
      simp only
      split
      · next settled =>
        rw [settled] at more
        -- A set that gains nothing by one step gains nothing by any number of them.
        have closed {n i k : Nat} (steps : Steps R n i k) (start : places.testBit i = true) :
            places.testBit k = true := by
          induction steps with
          | none => exact start
          | step first _ ih => exact ih ((more _).2 (.inr ⟨_, start, first⟩))
        constructor
        · exact fun reached => ⟨0, Nat.zero_le _, j, reached, .none j⟩
        · rintro ⟨n, -, i, start, steps⟩
          exact closed steps start
      · rw [ih wider]
        constructor
        · rintro ⟨n, few, i, start, steps⟩
          rcases (more i).1 start with start | ⟨h, start, first⟩
          · exact ⟨n, by omega, i, start, steps⟩
          · exact ⟨n + 1, by omega, h, start, .step first steps⟩
        · rintro ⟨n, few, i, start, steps⟩
          cases steps with
          | none => exact ⟨0, Nat.zero_le _, j, (more j).2 (.inl start), .none j⟩
          | step first later =>
              exact ⟨_, by omega, _, (more _).2 (.inr ⟨i, start, first⟩), later⟩

/-- At least some number of rounds, and then more as long as they lead to new places. -/
theorem repeated (takes : Takes size f R) (least : Nat) (most : Option Nat) :
    Takes size
      (fun places => Places.close f
        (match most with
        | some most => min (most - least) (size + 1)
        | none => size + 1) (Places.iterate f least places))
      fun i j => ∃ n, least ≤ n ∧ (∀ m ∈ most, n ≤ max least m) ∧ Steps R n i j where
  bits := by
    intro places inside k
    have begun := takes.iterate least
    rw [takes.testBit_close _ (begun.within inside)]
    constructor
    · rintro ⟨n, few, j, reached, later⟩
      obtain ⟨i, start, first⟩ := (begun.bits places inside j).1 reached
      refine ⟨i, start, least + n, Nat.le_add_right least n, fun m top => ?_,
        first.append later⟩
      simp only [Option.mem_def.1 top] at few
      omega
    · rintro ⟨i, start, n, enough, bounded, steps⟩
      obtain ⟨more, rfl⟩ := Nat.exists_eq_add_of_le enough
      obtain ⟨j, first, later⟩ := steps.split
      have here := takes.steps_forward (inside i start) first
      obtain ⟨m, fewer, ahead, shorter⟩ := takes.exists_fewer_steps here.2 later
      have there := takes.steps_forward here.2 shorter
      refine ⟨m, ?_, j, (begun.bits places inside j).2 ⟨i, start, first⟩, shorter⟩
      cases most with
      | none => simp only; omega
      | some top =>
          have bound := bounded top rfl
          simp only
          omega
  forward := by
    rintro i j inside ⟨n, -, -, steps⟩
    exact takes.steps_forward inside steps

end Takes

end Places

/-! ## Running an expression -/

namespace Expr

open Places

variable (text : Array Char)

theorem takes_chars (set : CharSet) :
    Takes text.size ((Expr.chars set).ends text) ((Expr.chars set).Matches text) where
  bits := by
    intro places inside j
    have member (i : Nat) : ((text[i]?.map set.contains).getD false) = true ↔
        ∃ c, text[i]? = some c ∧ set.contains c = true := by
      cases text[i]? <;> simp
    simp only [Expr.ends, Expr.Matches, Nat.testBit_shiftLeft, Bool.and_eq_true, decide_eq_true_eq,
      testBit_filter, member]
    constructor
    · rintro ⟨later, -, start, found⟩
      exact ⟨j - 1, start, by omega, found⟩
    · rintro ⟨i, start, rfl, c, found, listed⟩
      have short : i < text.size := (Array.getElem?_eq_some_iff.1 found).1
      simp only [Nat.add_sub_cancel]
      exact ⟨by omega, short, start, c, found, listed⟩
  forward := by
    rintro i j inside ⟨rfl, c, found, -⟩
    have short : i < text.size := (Array.getElem?_eq_some_iff.1 found).1
    omega

theorem takes_condition (c : Condition) :
    Takes text.size ((Expr.condition c).ends text) ((Expr.condition c).Matches text) where
  bits := by
    intro places inside j
    simp only [Expr.ends, Expr.Matches, testBit_filter]
    constructor
    · rintro ⟨-, start, holds⟩
      exact ⟨j, start, rfl, holds⟩
    · rintro ⟨i, start, rfl, holds⟩
      exact ⟨Nat.lt_succ_of_le (inside i start), start, holds⟩
  forward := by
    rintro i j inside ⟨rfl, -⟩
    exact ⟨Nat.le_refl i, inside⟩

mutual

/-- Running an expression finds its matches and nothing else. -/
theorem takes_ends : (e : Expr) → Takes text.size (e.ends text) (e.Matches text)
  | .empty => Takes.stay.imp fun i j => by rw [Expr.Matches]
  | .chars set => takes_chars text set
  | .condition c => takes_condition text c
  | .concat es => (takes_endsInRow es).imp fun i j => by rw [Expr.Matches]
  | .alt es => (takes_endsOfAny es).imp fun i j => by rw [Expr.Matches]
  | .repeated least most body =>
    ((takes_ends body).repeated least most).imp fun i j => by rw [Expr.Matches]
  | .capture body => (takes_ends body).imp fun i j => by rw [Expr.Matches]

theorem takes_endsInRow : (es : List Expr) →
    Takes text.size (Expr.endsInRow text es) (Expr.MatchesInRow text es)
  | [] => Takes.stay.imp fun i j => by rw [Expr.MatchesInRow]
  | e :: es => ((takes_ends e).andThen (takes_endsInRow es)).imp fun i j => by
      rw [Expr.MatchesInRow]

theorem takes_endsOfAny : (es : List Expr) →
    Takes text.size (Expr.endsOfAny text es) (Expr.MatchesAny text es)
  | [] =>
    { bits := by simp [Expr.endsOfAny, Expr.MatchesAny]
      forward := by simp [Expr.MatchesAny] }
  | e :: es => ((takes_ends e).either (takes_endsOfAny es)).imp fun i j => by
      rw [Expr.MatchesAny]

end

end Expr

end Pattern

/-- A pattern matches in a text just if its expression does between two places of it. -/
theorem Regex.isMatch_iff (r : Regex) (s : String) : r.isMatch s = true ↔
    ∃ i j, i ≤ s.toList.length ∧ r.expr.Matches s.toList.toArray i j := by
  have size : s.toList.toArray.size = s.toList.length := List.size_toArray
  have takes := Pattern.Expr.takes_ends s.toList.toArray r.expr
  have start (i : Nat) : (Pattern.Places.all s.toList.toArray.size).testBit i = true ↔
      i ≤ s.toList.length := by
    rw [Pattern.Places.testBit_all, decide_eq_true_eq, size, Nat.lt_succ_iff]
  have bits := takes.bits _ fun i member => size ▸ (start i).1 member
  simp only [start] at bits
  unfold isMatch
  rw [decide_eq_true_eq]
  constructor
  · intro found
    obtain ⟨j, reached⟩ := Nat.exists_testBit_of_ne_zero found
    obtain ⟨i, inside, related⟩ := (bits j).1 reached
    exact ⟨i, j, inside, related⟩
  · rintro ⟨i, j, inside, related⟩ none
    have reached := (bits j).2 ⟨i, inside, related⟩
    rw [none, Nat.zero_testBit] at reached
    cases reached

end FormRules
