import FormRules.Proofs.Json.Soundness

/-!
# Longer texts

What a step reads before the end of a text it also reads if more text follows.
The loops of the reader count the characters that are left and so run longer on
a longer text; two steps are compared, one on the text and one on the longer text.
-/

namespace FormRules.Json.Decode

variable {α β : Type} {n : Nat} {more : List Char}

/-- What a step reads on a text of at most so many characters, short of its end, another step reads
with more text behind it. -/
def Carries (n : Nat) (more : List Char) (step longer : Decode α) : Prop :=
  ∀ ⦃cs a rest⦄, Yields step cs a rest → cs.length ≤ n → rest ≠ [] →
    rest.length ≤ cs.length ∧ Reads longer (cs ++ more) a (rest ++ more)

/-! ## Rules -/

theorem carries_never {step longer : Decode α} (h : ∀ cs a rest, ¬Yields step cs a rest) :
    Carries n more step longer :=
  fun cs a rest read => absurd read (h cs a rest)

/-- At its end nothing of a text is left over. -/
theorem Carries.eq_nil {step longer : Decode α} (h : Carries n more step longer) {a : α}
    {rest : List Char} (read : Yields step [] a rest) : rest = [] := by
  by_contra left
  have bound := (h read (Nat.zero_le n) left).1
  exact left (List.eq_nil_of_length_eq_zero (Nat.le_zero.1 bound))

/-- Steps one after the other; how much is left for the second may depend on what is read first. -/
theorem Carries.bind_within (m : α → Nat) {step longer : Decode α} {next later : α → Decode β}
    (h : Carries n more step longer)
    (hm : ∀ cs a mid, Yields step cs a mid → cs.length ≤ n → mid.length ≤ m a)
    (hn : ∀ a, Carries (m a) more (next a) (later a)) :
    Carries n more (step >>= next) (longer >>= later) := by
  intro cs b rest read short left
  obtain ⟨a, mid, first, second⟩ := read.of_bind
  obtain ⟨bound, reads⟩ := hn a second (hm cs a mid first short) left
  have unfinished : mid ≠ [] := by
    rintro rfl
    exact left ((hn a).eq_nil second)
  obtain ⟨shorter, reads'⟩ := h first short unfinished
  exact ⟨bound.trans shorter, reads'.bind reads⟩

theorem Carries.bind {step longer : Decode α} {next later : α → Decode β}
    (h : Carries n more step longer) (hn : ∀ a, Carries n more (next a) (later a)) :
    Carries n more (step >>= next) (longer >>= later) := by
  refine h.bind_within (fun _ => n) (fun cs a mid first short => ?_) hn
  by_cases ended : mid = []
  · simp [ended]
  · exact (h first short ended).1.trans short

theorem Carries.perhaps {p : Prop} [Decidable p] {step longer : Decode α} {next later : Decode β}
    (hs : Carries n more step longer) (h : Carries n more next later) :
    Carries n more (if p then step >>= fun _ => next else next)
      (if p then longer >>= fun _ => later else later) := by
  split
  · exact hs.bind fun _ => h
  · exact h

theorem carries_pure (a : α) : Carries n more (Pure.pure a) (Pure.pure a) := by
  intro cs b rest read _ _
  obtain ⟨rfl, rfl⟩ := yields_pure read
  exact ⟨Nat.le_refl _, Reads.pure b _⟩

theorem carries_fail (fault : Fault) :
    Carries n more (fail fault : Decode α) (fail fault) :=
  carries_never fun _ _ _ => not_yields_fail fault

theorem carries_failAhead (fault : Fault) :
    Carries n more (failAhead fault : Decode α) (failAhead fault) :=
  carries_never fun _ _ _ => not_yields_failAhead fault

theorem carries_failOpen (fault : Fault) :
    Carries n more (failOpen fault : Decode α) (failOpen fault) :=
  carries_never fun _ _ _ => not_yields_failOpen fault

/-- A loop that has used up its count is at the end of the text. -/
theorem carries_exhausted (hn : n ≤ 0) (a : α) (longer : Decode α) :
    Carries n more (Pure.pure a) longer := by
  intro cs b rest read short left
  obtain ⟨-, rfl⟩ := yields_pure read
  exact absurd (List.eq_nil_of_length_eq_zero (Nat.le_zero.1 (short.trans hn))) left

theorem Carries.map {step longer : Decode α} (f : α → β) (h : Carries n more step longer) :
    Carries n more (f <$> step) (f <$> longer) := by
  intro cs b rest read short left
  obtain ⟨a, rfl, first⟩ := read.of_map
  obtain ⟨bound, reads⟩ := h first short left
  exact ⟨bound, reads.map f⟩

theorem Carries.placed {step longer : Decode α} (h : Carries n more step longer) :
    Carries n more (Decode.placed step) (Decode.placed longer) := by
  intro cs a rest read short left
  obtain ⟨bound, reads⟩ := h read.of_placed short left
  exact ⟨bound, reads.placed⟩

theorem Carries.within {step longer : Decode α} (segment : Segment)
    (h : Carries n more step longer) :
    Carries n more (Decode.within segment step) (Decode.within segment longer) := by
  intro cs a rest read short left
  obtain ⟨bound, reads⟩ := h read.of_within short left
  exact ⟨bound, reads.within segment⟩

/-! ## Single characters -/

theorem carries_peek : Carries n more peek peek := by
  intro cs c rest read _ left
  obtain ⟨rfl, rfl⟩ := yields_peek read
  refine ⟨Nat.le_refl _, ?_⟩
  obtain ⟨d, tail, rfl⟩ := List.exists_cons_of_ne_nil left
  exact reads_peek _

theorem carries_peekToken : Carries n more peekToken peekToken := by
  intro cs c rest read _ left
  obtain ⟨gap, rfl, blank, stop, rfl⟩ := yields_peekToken read
  obtain ⟨d, tail, rfl⟩ := List.exists_cons_of_ne_nil left
  refine ⟨by simp, ?_⟩
  rw [List.append_assoc]
  exact reads_peekToken blank (stop d rfl)

/-- At a token there is a character left. -/
theorem Carries.token {next later : Option Char → Decode β}
    (ends : Carries 0 more (next none) (later none))
    (h : ∀ c, 0 < n → Carries n more (next (some c)) (later (some c))) :
    Carries n more (peekToken >>= next) (peekToken >>= later) := by
  intro cs b rest read short left
  obtain ⟨gap, mid, rfl, blank, stop, second⟩ := read.of_token
  cases mid with
  | nil => exact absurd (ends.eq_nil second) left
  | cons c tail =>
      simp only [List.length_append, List.length_cons] at short ⊢
      obtain ⟨bound, reads⟩ := h c (by omega) second (by simp only [List.length_cons]; omega) left
      simp only [List.length_cons] at bound
      refine ⟨by omega, ?_⟩
      rw [List.append_assoc]
      exact Reads.token blank (stop c rfl) reads

theorem carries_advance : Carries n more advance advance := by
  intro cs u rest read _ left
  cases cs with
  | nil => exact absurd (yields_advance_nil read) left
  | cons c cs =>
      rw [yields_advance read]
      exact ⟨by simp, reads_advance c _⟩

theorem Carries.advance {next later : Unit → Decode β}
    (h : Carries (n - 1) more (next ()) (later ())) :
    Carries n more (Decode.advance >>= next) (Decode.advance >>= later) := by
  refine carries_advance.bind_within (fun _ => n - 1) (fun cs u mid first short => ?_) fun _ => h
  cases cs with
  | nil => simp [yields_advance_nil first]
  | cons c cs =>
      rw [yields_advance first]
      simp only [List.length_cons] at short
      omega

/-- A step that counts the characters left counts the further ones too. -/
theorem Carries.remaining {next later : Nat → Decode β}
    (h : ∀ k ≤ n, Carries k more (next k) (later (k + more.length))) :
    Carries n more (Decode.remaining >>= next) (Decode.remaining >>= later) := by
  intro cs b rest read short left
  obtain ⟨bound, reads⟩ := h cs.length short read.of_remaining (Nat.le_refl _) left
  refine ⟨bound, (reads_remaining _).bind ?_⟩
  rw [List.length_append]
  exact reads

/-! ## Words, strings and numbers -/

theorem carries_word (w : List Char) : Carries n more (word w) (word w) := by
  intro cs u rest read _ _
  rw [yields_word read, List.append_assoc]
  exact ⟨by simp, reads_word w _⟩

theorem carries_stringBody : Carries n more stringBody stringBody := by
  intro cs s rest read _ _
  obtain ⟨t, chars, rfl, written, rfl⟩ := yields_stringBody read
  refine ⟨by simp; omega, ?_⟩
  rw [List.append_assoc]
  exact written.reads_stringBody _

theorem carries_digitRun : Carries n more digitRun digitRun := by
  intro cs ds rest read _ left
  obtain ⟨rfl, digits, stop⟩ := yields_digitRun read
  obtain ⟨c, tail, rfl⟩ := List.exists_cons_of_ne_nil left
  refine ⟨by simp, ?_⟩
  rw [List.append_assoc]
  exact reads_digitRun digits stop

theorem EndsNumeral.append {fraction : Option (List Char)} {exponent : Option Exponent}
    {rest : List Char} (h : EndsNumeral fraction exponent rest) (left : rest ≠ []) :
    EndsNumeral fraction exponent (rest ++ more) := by
  obtain ⟨c, tail, rfl⟩ := List.exists_cons_of_ne_nil left
  exact ⟨h.noDigit, h.noExponent, h.noPoint⟩

theorem carries_anyNumber : Carries n more anyNumber anyNumber := by
  intro cs x rest read _ left
  obtain ⟨numeral, rfl, number, stop⟩ := yields_anyNumber read
  refine ⟨by simp, ?_⟩
  rw [List.append_assoc]
  exact numeral.reads number (stop.append left)

theorem carries_scalar (c : Char) : Carries n more (scalar c) (scalar c) := by
  unfold scalar
  split
  · exact .advance ((carries_word _).bind fun _ => carries_pure _)
  split
  · exact .advance ((carries_word _).bind fun _ => carries_pure _)
  split
  · exact .advance ((carries_word _).bind fun _ => carries_pure _)
  split
  · exact .advance (carries_stringBody.bind fun _ => carries_pure _)
  split
  · exact carries_anyNumber.bind fun _ => carries_pure _
  · exact carries_failAhead _

theorem carries_value (levels : Nat) : Carries n more (value levels) (value levels) := by
  cases levels with
  | zero => exact carries_failAhead _
  | succ levels =>
      intro cs v rest read _ left
      cases yields_value read with
      | @number gap _ numeral x blank number stop =>
          refine ⟨by simp; omega, ?_⟩
          rw [List.append_assoc, List.append_assoc]
          exact (Starts.number blank number (stop.append left)).reads
      | @other gap t _ _ blank text notNumber =>
          refine ⟨by simp; omega, ?_⟩
          rw [List.append_assoc, List.append_assoc]
          exact (Starts.other blank text notNumber).reads

/-! ## Containers -/

theorem carries_nextItem (first : Bool) : Carries n more (nextItem first) (nextItem first) := by
  unfold nextItem
  refine .token (carries_failAhead _) fun c _ => ?_
  dsimp only
  split
  · exact carries_pure false
  split
  · exact carries_pure true
  split
  · refine .advance (.token (carries_failAhead _) fun d _ => ?_)
    dsimp only
    split
    · exact carries_failAhead _
    · exact carries_pure true
  · exact carries_failAhead _

variable {item : Nat → Decode α}

theorem carries_items (h : ∀ n i, Carries n more (item i) (item i)) {fuel index : Nat}
    (hi : index ≠ 0) (hf : n ≤ fuel) :
    Carries n more (items item fuel index) (items item (fuel + more.length) index) := by
  -- Every further item is behind a comma.
  induction fuel generalizing n index with
  | zero => exact carries_exhausted hf [] _
  | succ fuel ih =>
      rw [Nat.add_right_comm]
      unfold items
      rw [decide_eq_false hi]
      refine (carries_nextItem false).bind_within (fun there => if there then n - 1 else n) ?_ ?_
      · intro cs there mid next short
        cases there with
        | false =>
            obtain ⟨gap, rfl, -, -⟩ := yields_nextItem_none next
            simp only [List.length_append] at short
            simp only [Bool.false_eq_true, if_false]
            omega
        | true =>
            obtain ⟨before, gap, rfl, -, -⟩ := yields_nextItem_later next
            simp only [List.length_append, List.length_cons] at short
            exact Nat.le_sub_one_of_lt (by omega)
      · intro there
        cases there with
        | false => exact carries_pure []
        | true =>
            have later := ih (Nat.succ_ne_zero index) (Nat.sub_le_of_le_add hf)
            exact ((h _ index).within _).bind fun a => later.bind fun _ => carries_pure _

theorem carries_allItems (h : ∀ n i, Carries n more (item i) (item i)) :
    Carries n more (allItems item) (allItems item) := by
  unfold allItems
  refine .remaining fun k _ => ?_
  unfold items
  refine (carries_nextItem true).bind fun there => ?_
  cases there with
  | false => exact carries_pure []
  | true =>
      have later : Carries k more (items item k 1) (items item (k + more.length) 1) :=
        carries_items h (Nat.succ_ne_zero 0) (Nat.le_refl k)
      exact ((h k 0).within _).bind fun a => later.bind fun _ => carries_pure _

theorem carries_nextMember (first : Bool) :
    Carries n more (nextMember first) (nextMember first) := by
  unfold nextMember
  refine .token (carries_failAhead _) fun c _ => ?_
  dsimp only
  split
  · exact carries_pure false
  split
  · split
    · exact carries_pure true
    · exact carries_failAhead _
  split
  · refine .advance (.token (carries_failAhead _) fun d _ => ?_)
    dsimp only
    split
    · exact carries_pure true
    split
    · exact carries_failAhead _
    · exact carries_failAhead _
  · exact carries_failAhead _

theorem carries_nextKey (first : Bool) : Carries n more (nextKey first) (nextKey first) := by
  unfold nextKey
  refine .within _ ((carries_nextMember first).bind fun there => ?_)
  split
  · exact .advance (carries_stringBody.bind fun _ => carries_pure _)
  · exact carries_pure none

theorem carries_colon : Carries n more colon colon := by
  unfold colon
  refine .token (carries_failAhead _) fun c _ => ?_
  dsimp only
  split
  · exact carries_advance
  · exact carries_failAhead _

variable {refuse : List String → String → Option Fault} {member : String → Decode α}

theorem carries_members (h : ∀ n key, Carries n more (member key) (member key)) {fuel : Nat}
    {seen : List String} (hf : n ≤ fuel) :
    Carries n more (members refuse member fuel seen)
      (members refuse member (fuel + more.length) seen) := by
  -- Every key takes a character.
  induction fuel generalizing n seen with
  | zero => exact carries_exhausted hf [] _
  | succ fuel ih =>
      rw [Nat.add_right_comm]
      unfold members
      refine (carries_nextKey _).bind_within (fun key => if key.isSome then n - 1 else n) ?_ ?_
      · intro cs key mid next short
        cases key with
        | none =>
            obtain ⟨gap, rfl, -, -⟩ := yields_nextKey_none next
            simp only [List.length_append] at short
            exact (Nat.le_add_left _ _).trans short
        | some key =>
            obtain ⟨t, chars, -, -, there⟩ := yields_nextKey_some next
            have reads : Carries n more (nextMember seen.isEmpty) (nextMember seen.isEmpty) :=
              carries_nextMember _
            have bound := (reads there short (List.cons_ne_nil _ _)).1
            simp only [List.length_append, List.length_cons] at bound
            exact Nat.le_sub_one_of_lt (by omega)
      · intro key
        cases key with
        | none => exact carries_pure []
        | some key =>
            cases refused : refuse seen key with
            | some fault =>
                simp only [refused]
                exact carries_failOpen _
            | none =>
                have later : Carries (n - 1) more (members refuse member fuel (key :: seen))
                  (members refuse member (fuel + more.length) (key :: seen)) :=
                  ih (Nat.sub_le_of_le_add hf)
                simp only [refused]
                exact carries_colon.bind fun _ => ((h _ key).within _).bind fun a =>
                  later.bind fun _ => carries_pure _

theorem carries_allMembers (h : ∀ n key, Carries n more (member key) (member key)) :
    Carries n more (allMembers refuse member) (allMembers refuse member) := by
  unfold allMembers
  refine .remaining fun k _ => ?_
  rw [Nat.add_right_comm]
  exact carries_members h (Nat.le_succ k)

/-! ## Values that do not matter -/

theorem carries_hexEscape : Carries n more hexEscape hexEscape := by
  intro cs code rest read _ _
  obtain ⟨w, x, y, z, rfl, value⟩ := yields_hexEscape read
  exact ⟨by simp only [List.length_cons]; omega, reads_hexEscape value _⟩

theorem carries_skipString (fuel extra : Nat) :
    Carries n more (skipString fuel) (skipString (fuel + extra)) := by
  induction fuel generalizing n with
  | zero => exact carries_never fun _ _ _ => not_yields_fail _
  | succ fuel ih =>
      rw [Nat.add_right_comm]
      unfold skipString
      refine carries_peek.bind fun next => ?_
      split
      · exact carries_fail _
      split
      · exact carries_advance
      split
      · refine .advance (carries_peek.bind fun escape => ?_)
        dsimp only
        split
        · exact (carries_fail _).bind fun _ => ih
        split
        · exact .advance ih
        split
        · exact .advance (carries_hexEscape.bind fun _ => ih)
        · exact (carries_failAhead _).bind fun _ => ih
      split
      · exact carries_fail _
      · exact .advance ih

def skipExponentDigits : Decode Unit := do
  match ← peek with
  | none => fail .badNumber
  | some c => if Text.isAsciiDigit c then let _ ← digitRun else failAhead .badNumber

theorem carries_skipExponentDigits :
    Carries n more skipExponentDigits skipExponentDigits := by
  unfold skipExponentDigits
  refine carries_peek.bind fun next => ?_
  split
  · exact carries_fail _
  split
  · exact carries_digitRun.bind fun _ => carries_pure _
  · exact carries_failAhead _

theorem carries_skipExponent : Carries n more skipExponent skipExponent := by
  unfold skipExponent
  refine .advance (carries_peek.bind fun sign => ?_)
  exact .perhaps carries_advance carries_skipExponentDigits

def skipFraction : Decode Unit := do
  if (← peek) = some '.' then
    advance
    let ds ← digitRun
    if ds.isEmpty then failAhead .badNumber
  if startsExponent (← peek) then skipExponent

theorem carries_skipFraction : Carries n more skipFraction skipFraction := by
  have exponent (m : Nat) : Carries m more
      (do if startsExponent (← peek) then skipExponent)
      (do if startsExponent (← peek) then skipExponent) := by
    refine carries_peek.bind fun next => ?_
    split
    · exact carries_skipExponent
    · exact carries_pure ()
  unfold skipFraction
  refine carries_peek.bind fun next => ?_
  dsimp only
  split
  · exact .advance (carries_digitRun.bind fun ds => .perhaps (carries_failAhead _) (exponent _))
  · exact exponent n

theorem carries_skipNumber : Carries n more skipNumber skipNumber := by
  unfold skipNumber
  refine carries_peek.bind fun next => ?_
  split
  · exact carries_fail _
  split
  · exact carries_failAhead _
  dsimp only
  split
  · refine .advance (carries_peek.bind fun digit => ?_)
    split
    · exact .perhaps (carries_failAhead _) carries_skipFraction
    · exact carries_skipFraction
  · exact carries_digitRun.bind fun _ => carries_skipFraction

theorem carries_skipKey : Carries n more skipKey skipKey := by
  unfold skipKey
  refine .token (carries_failAhead _) fun c _ => ?_
  dsimp only
  split
  · refine .advance (.remaining fun k _ => ?_)
    rw [Nat.add_right_comm]
    exact (carries_skipString _ _).bind fun _ => carries_colon
  · exact carries_failAhead _

/-- How many calls are enough to pass the rest of a value, from how many characters are left. -/
def callsLeft (characters : Nat) (opened done : Bool) : Nat :=
  if done then if opened then 2 * characters + 2 else 2 * characters else 2 * characters + 1

@[simp] theorem callsLeft_value (characters : Nat) (opened : Bool) :
    callsLeft characters opened false = 2 * characters + 1 := rfl

@[simp] theorem callsLeft_opened (characters : Nat) :
    callsLeft characters true true = 2 * characters + 2 := rfl

@[simp] theorem callsLeft_passed (characters : Nat) :
    callsLeft characters false true = 2 * characters := rfl

theorem carries_skipParts {fuel : Nat} {stack : List Bool} {opened done : Bool}
    (hf : callsLeft n opened done ≤ fuel) :
    Carries n more (skipParts fuel stack opened done)
      (skipParts (fuel + 2 * more.length) stack opened done) := by
  induction fuel generalizing n stack opened done with
  | zero =>
      have none : n ≤ 0 := by
        cases done <;> cases opened <;> simp at hf
        omega
      rw [skipParts]
      exact carries_exhausted none () _
  | succ fuel ih =>
      rw [Nat.add_right_comm]
      match stack, opened, done with
      | [], opened, true =>
          unfold skipParts
          exact carries_pure ()
      | isArray :: stack, opened, true =>
          unfold skipParts
          refine .token (carries_failAhead _) fun c some => ?_
          have passed : Carries (n - 1) more (skipParts fuel stack false true)
              (skipParts (fuel + 2 * more.length) stack false true) := by
            refine ih ?_
            cases opened <;> simp at hf ⊢ <;> omega
          dsimp only
          by_cases close : c = if isArray = true then ']' else '}'
          · simp only [if_pos close]
            exact .advance passed
          simp only [if_neg close]
          split
          · next justOpened =>
            have value : Carries n more (skipParts fuel (isArray :: stack) false false)
                (skipParts (fuel + 2 * more.length) (isArray :: stack) false false) := by
              refine ih ?_
              simp [justOpened] at hf ⊢
              omega
            split
            · exact value
            · exact carries_skipKey.bind fun _ => value
          split
          · have value : Carries (n - 1) more (skipParts fuel (isArray :: stack) false false)
                (skipParts (fuel + 2 * more.length) (isArray :: stack) false false) := by
              refine ih ?_
              cases opened <;> simp at hf ⊢ <;> omega
            exact .advance (.perhaps carries_skipKey value)
          · exact carries_failAhead _
      | stack, opened, false =>
          have passed (m : Nat) (hm : m ≤ n) : Carries m more (skipParts fuel stack false true)
              (skipParts (fuel + 2 * more.length) stack false true) := by
            refine ih ?_
            simp at hf ⊢
            omega
          have inside (isArray : Bool) (hm : 0 < n) :
              Carries (n - 1) more (skipParts fuel (isArray :: stack) true true)
                (skipParts (fuel + 2 * more.length) (isArray :: stack) true true) := by
            refine ih ?_
            simp at hf ⊢
            omega
          rw [skipParts, skipParts]
          refine .token (carries_failAhead _) fun c some => ?_
          dsimp only
          split
          · exact .advance (inside true some)
          split
          · exact .advance (inside false some)
          split
          · refine .advance (.remaining fun k hk => ?_)
            rw [Nat.add_right_comm]
            exact (carries_skipString _ _).bind fun _ => passed k (by omega)
          split
          · exact .advance (carries_skipNumber.bind fun _ => passed _ (Nat.sub_le n 1))
          split
          · exact carries_skipNumber.bind fun _ => passed n (Nat.le_refl n)
          · exact (carries_scalar c).bind fun _ => passed n (Nat.le_refl n)

theorem carries_skipValue : Carries n more skipValue skipValue := by
  unfold skipValue
  refine .remaining fun k _ => ?_
  have calls : 2 * (k + more.length) + 2 = 2 * k + 2 + 2 * more.length := by omega
  rw [calls]
  exact carries_skipParts (Nat.le_succ (2 * k + 1))

end FormRules.Json.Decode
