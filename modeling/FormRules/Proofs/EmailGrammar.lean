import FormRules.Schema.Check
import FormRules.Proofs.Matching
import FormRules.Proofs.Pieces

/-!
# The grammar of e-mail addresses

An address is said in three ways: as the text of three parts with an at sign and a
dot between them, by the pattern `^[^\s@]+@[^\s@]+\.[^\s@.]+$`, and by the check,
which looks for the first at sign and then for the last dot.  The three agree on
every text, although the characters that may stand before the last dot include
the dot.
-/

namespace FormRules

open Text

/-! ## Runs of characters in a text -/

namespace Pattern

variable {cs : List Char} {set : CharSet} {n i j : Nat}

theorem drop_eq_cons_iff {c : Char} {rest : List Char} :
    cs.drop i = c :: rest ↔ cs.toArray[i]? = some c ∧ cs.drop (i + 1) = rest := by
  rw [List.getElem?_toArray, ← List.tail_drop, ← List.head?_drop]
  cases cs.drop i <;> simp

theorem matches_chars_iff : (Expr.chars set).Matches cs.toArray i j ↔
    ∃ c, set.contains c = true ∧ cs.drop i = c :: cs.drop j ∧ j = i + 1 := by
  rw [Expr.Matches]
  constructor
  · rintro ⟨rfl, c, found, listed⟩
    exact ⟨c, listed, drop_eq_cons_iff.2 ⟨found, rfl⟩, rfl⟩
  · rintro ⟨c, listed, front, rfl⟩
    exact ⟨rfl, c, (drop_eq_cons_iff.1 front).1, listed⟩

theorem steps_chars_iff : Steps ((Expr.chars set).Matches cs.toArray) n i j ↔
    ∃ run : List Char, run.length = n ∧ (∀ c ∈ run, set.contains c = true) ∧
      cs.drop i = run ++ cs.drop j ∧ j = i + n := by
  induction n generalizing i with
  | zero =>
      constructor
      · rintro ⟨⟩
        exact ⟨[], rfl, by simp, rfl, rfl⟩
      · rintro ⟨run, -, -, -, rfl⟩
        exact .none _
  | succ n ih =>
      constructor
      · rintro (_ | ⟨first, later⟩)
        obtain ⟨c, listed, front, rfl⟩ := matches_chars_iff.1 first
        obtain ⟨run, length, all, rest, rfl⟩ := ih.1 later
        refine ⟨c :: run, by rw [List.length_cons, length], ?_, ?_, by omega⟩
        · simpa [listed] using all
        · rw [front, rest, List.cons_append]
      · rintro ⟨run, length, all, front, rfl⟩
        obtain ⟨c, run, rfl⟩ := List.exists_cons_of_length_eq_add_one length
        have listed := all c List.mem_cons_self
        have behind := (drop_eq_cons_iff.1 front).2
        refine .step (matches_chars_iff.2 ⟨c, listed, ?_, rfl⟩) (ih.2 ⟨run, ?_, ?_, behind, ?_⟩)
        · rw [front, behind]
          rfl
        · simpa using length
        · exact fun c mem => all c (List.mem_cons_of_mem _ mem)
        · omega

/-- One or more characters of a set match just a run of them. -/
theorem matches_run_iff : (Expr.repeated 1 none (.chars set)).Matches cs.toArray i j ↔
    ∃ run : List Char, run ≠ [] ∧ (∀ c ∈ run, set.contains c = true) ∧
      cs.drop i = run ++ cs.drop j ∧ j = i + run.length := by
  rw [Expr.Matches]
  simp only [steps_chars_iff]
  constructor
  · rintro ⟨n, some, -, run, rfl, all, front, place⟩
    exact ⟨run, List.length_pos_iff.1 some, all, front, place⟩
  · rintro ⟨run, some, all, front, place⟩
    exact ⟨run.length, List.length_pos_iff.2 some, by simp, run, rfl, all, front, place⟩

theorem matches_textStart_iff (inside : i ≤ cs.length) :
    (Expr.condition .textStart).Matches cs.toArray i j ↔ i = 0 ∧ j = 0 := by
  have first : Condition.textStart.holds cs.toArray i = true ↔ i = 0 := by
    simp only [Condition.holds, before?, decide_eq_true_eq, List.getElem?_toArray]
    constructor
    · intro none
      by_contra later
      rw [if_neg later, List.getElem?_eq_none_iff] at none
      omega
    · intro zero
      rw [if_pos zero]
  rw [Expr.Matches, first]
  omega

theorem matches_textEnd_iff :
    (Expr.condition .textEnd).Matches cs.toArray i j ↔ i = j ∧ cs.drop i = [] := by
  rw [Expr.Matches]
  simp [Condition.holds]

theorem drop_add_length {run rest : List Char} (front : cs.drop i = run ++ rest) :
    cs.drop (i + run.length) = rest := by
  rw [← List.drop_drop, front, List.drop_left]

end Pattern

/-! ## The pattern -/

namespace Email

open Pattern

def pattern : String := "^[^\\s@]+@[^\\s@]+\\.[^\\s@.]+$"

def plain : CharSet :=
  ⟨[(0, 8), (14, 31), (33, 63), (65, 132), (134, 159), (161, 5759), (5761, 8191), (8203, 8231),
    (8234, 8238), (8240, 8286), (8288, 12287), (12289, 1114111)]⟩

def dotless : CharSet :=
  ⟨[(0, 8), (14, 31), (33, 45), (47, 63), (65, 132), (134, 159), (161, 5759), (5761, 8191),
    (8203, 8231), (8234, 8238), (8240, 8286), (8288, 12287), (12289, 1114111)]⟩

def expr : Expr :=
  .concat [.condition .textStart, .repeated 1 none (.chars plain), .chars (.single 64),
    .repeated 1 none (.chars plain), .chars (.single 46), .repeated 1 none (.chars dotless),
    .condition .textEnd]

theorem toNat_le (c : Char) : c.toNat ≤ 1114111 := by
  rcases c.valid with low | ⟨-, high⟩
  · exact Nat.le_trans (Nat.le_of_lt low) (by decide)
  · exact Nat.le_of_lt_succ high

theorem contains_plain (c : Char) : plain.contains c = true ↔ c ≠ '@' ∧ isBlank c = false := by
  have bound := toNat_le c
  have sign : c = '@' ↔ c.toNat = 64 := Char.toNat_inj.symm
  simp only [plain, CharSet.contains, CharSet.inRanges, isBlank, sign, Ne, Bool.and_eq_true,
    Bool.or_eq_true, decide_eq_true_eq, Bool.or_eq_false_iff, Bool.and_eq_false_iff,
    decide_eq_false_iff_not, beq_eq_false_iff_ne, Bool.false_eq_true, or_false]
  omega

theorem contains_dotless (c : Char) :
    dotless.contains c = true ↔ (c ≠ '@' ∧ isBlank c = false) ∧ c ≠ '.' := by
  have dot : c = '.' ↔ c.toNat = 46 := Char.toNat_inj.symm
  rw [← contains_plain, Ne, dot]
  simp only [plain, dotless, CharSet.contains, CharSet.inRanges, Bool.and_eq_true, Bool.or_eq_true,
    decide_eq_true_eq, Bool.false_eq_true, or_false]
  omega

theorem contains_single {n : Nat} {c : Char} : (CharSet.single n).contains c = true ↔ c.toNat = n := by
  simp only [CharSet.single, CharSet.contains, CharSet.inRanges, Bool.and_eq_true, Bool.or_eq_true,
    decide_eq_true_eq, Bool.false_eq_true, or_false]
  omega

/-! ### Compiling it -/

theorem complement_blank_at :
    (CharSet.blank.union ((CharSet.single 64).union .empty)).complement = plain := by
  simp [CharSet.union, CharSet.single, CharSet.empty, CharSet.blank, CharSet.ofRanges,
    List.mergeSort, CharSet.pushRange, CharSet.complement, CharSet.complementUpTo, CharSet.gaps,
    CharSet.maxPoint, plain]

theorem complement_blank_at_dot :
    (CharSet.blank.union ((CharSet.single 64).union ((CharSet.single 46).union .empty))).complement =
      dotless := by
  simp [CharSet.union, CharSet.single, CharSet.empty, CharSet.blank, CharSet.ofRanges,
    List.mergeSort, CharSet.pushRange, CharSet.complement, CharSet.complementUpTo, CharSet.gaps,
    CharSet.maxPoint, dotless]

/-- One or more characters that are neither blank nor among some others, as it is written. -/
def runOutside (others : List Char) : Syntax :=
  .repeated 1 none
    (.bracketed true (.union (.shorthand .space false :: others.map fun c => .literal ⟨c, false⟩)))

def parts : List Syntax :=
  [.anchor .lineStart, runOutside ['@'], .literal ⟨'@', false⟩, runOutside ['@'],
    .literal ⟨'.', false⟩, runOutside ['@', '.'], .anchor .lineEnd]

theorem toExpr?_runOutside {others : List Char} {set : CharSet}
    (listed : (ClassItem.union (.shorthand .space false ::
      others.map fun c => .literal ⟨c, false⟩)).toSet? .initial = some set) :
    (runOutside others).toExpr? .initial =
      some (.repeated 1 none (.chars set.complement), .initial) := by
  rw [runOutside, Syntax.toExpr?, Syntax.toExpr?, listed]
  rfl

theorem toExprs?_cons {m : Mode} {part : Syntax} {later : List Syntax} {e : Expr} {es : List Expr}
    (first : part.toExpr? m = some (e, m)) (rest : Syntax.toExprs? m later = some (es, m)) :
    Syntax.toExprs? m (part :: later) = some (e :: es, m) := by
  rw [Syntax.toExprs?, first]
  simp [rest]

theorem ofChars?_pattern : Expr.ofChars? pattern.toList = some expr := by
  have tree : Syntax.ofChars? pattern.toList = some (.concatenation parts) := rfl
  have run : (runOutside ['@']).toExpr? .initial =
      some (.repeated 1 none (.chars plain), .initial) := by
    rw [← complement_blank_at]
    exact toExpr?_runOutside rfl
  have last : (runOutside ['@', '.']).toExpr? .initial =
      some (.repeated 1 none (.chars dotless), .initial) := by
    rw [← complement_blank_at_dot]
    exact toExpr?_runOutside rfl
  have row : Syntax.toExprs? .initial parts =
      some ([.condition .textStart, .repeated 1 none (.chars plain), .chars (.single 64),
        .repeated 1 none (.chars plain), .chars (.single 46), .repeated 1 none (.chars dotless),
        .condition .textEnd], .initial) :=
    toExprs?_cons rfl <| toExprs?_cons run <| toExprs?_cons rfl <| toExprs?_cons run <|
      toExprs?_cons rfl <| toExprs?_cons last <| toExprs?_cons rfl rfl
  rw [Expr.ofChars?, tree, Option.bind_eq_bind, Option.bind_some, Syntax.toExpr?, row]
  rfl

theorem compile?_pattern : Regex.compile? pattern = some ⟨expr⟩ := by
  have small : expr.isSmall = true := by decide +kernel
  rw [Regex.compile?, ofChars?_pattern, Option.bind_eq_bind, Option.bind_some, if_pos small]

/-! ## Addresses -/

structure IsPart (cs : List Char) : Prop where
  filled : cs ≠ []
  plain : ∀ c ∈ cs, c ≠ '@' ∧ isBlank c = false

structure Parts (cs name host top : List Char) : Prop where
  text : cs = name ++ '@' :: (host ++ '.' :: top)
  isName : IsPart name
  isHost : IsPart host
  isTop : IsPart top
  dotless : '.' ∉ top

/-- The pattern matches nothing but a whole address. -/
theorem matches_expr_iff {cs : List Char} {i j : Nat} (inside : i ≤ cs.length) :
    expr.Matches cs.toArray i j ↔
      i = 0 ∧ j = cs.length ∧ ∃ name host top, Parts cs name host top := by
  rw [expr, Expr.Matches]
  simp only [Expr.MatchesInRow]
  constructor
  · rintro ⟨i0, start, i1, first, i2, sign, i3, second, i4, dot, i5, third, i6, stop, rfl⟩
    obtain ⟨rfl, rfl⟩ := (matches_textStart_iff inside).1 start
    obtain ⟨name, someName, plainName, front, rfl⟩ := matches_run_iff.1 first
    obtain ⟨at_, isAt, atFront, rfl⟩ := matches_chars_iff.1 sign
    obtain ⟨host, someHost, plainHost, hostFront, rfl⟩ := matches_run_iff.1 second
    obtain ⟨point, isDot, dotFront, rfl⟩ := matches_chars_iff.1 dot
    obtain ⟨top, someTop, plainTop, topFront, rfl⟩ := matches_run_iff.1 third
    obtain ⟨rfl, none⟩ := matches_textEnd_iff.1 stop
    obtain rfl : at_ = '@' := Char.toNat_inj.1 (contains_single.1 isAt)
    obtain rfl : point = '.' := Char.toNat_inj.1 (contains_single.1 isDot)
    simp only [contains_plain, contains_dotless] at plainName plainHost plainTop
    have text : cs = name ++ '@' :: (host ++ '.' :: top) := by
      rw [List.drop_zero] at front
      rw [front, atFront, hostFront, dotFront, topFront, none, List.append_nil]
    refine ⟨rfl, ?_, name, host, top, text, ⟨someName, plainName⟩, ⟨someHost, plainHost⟩,
      ⟨someTop, fun c mem => (plainTop c mem).1⟩, fun mem => (plainTop '.' mem).2 rfl⟩
    simp only [text, List.length_append, List.length_cons]
    omega
  · rintro ⟨rfl, rfl, name, host, top, address⟩
    have front : cs.drop 0 = name ++ '@' :: (host ++ '.' :: top) := address.text
    have atFront := drop_add_length front
    have hostFront := (drop_eq_cons_iff.1 atFront).2
    have dotFront := drop_add_length hostFront
    have topFront := (drop_eq_cons_iff.1 dotFront).2
    have none := drop_add_length (topFront.trans (List.append_nil top).symm)
    have plain {part : List Char} (isPart : IsPart part) (c : Char) (mem : c ∈ part) :
        Email.plain.contains c = true := (contains_plain c).2 (isPart.plain c mem)
    have dotless (c : Char) (mem : c ∈ top) : Email.dotless.contains c = true :=
      (contains_dotless c).2 ⟨address.isTop.plain c mem, fun dot => address.dotless (dot ▸ mem)⟩
    refine ⟨0, (matches_textStart_iff inside).2 ⟨rfl, rfl⟩,
      _, matches_run_iff.2 ⟨name, address.isName.filled, plain address.isName, ?_, rfl⟩,
      _, matches_chars_iff.2 ⟨'@', contains_single.2 rfl, ?_, rfl⟩,
      _, matches_run_iff.2 ⟨host, address.isHost.filled, plain address.isHost, ?_, rfl⟩,
      _, matches_chars_iff.2 ⟨'.', contains_single.2 rfl, ?_, rfl⟩,
      _, matches_run_iff.2 ⟨top, address.isTop.filled, dotless, ?_, rfl⟩,
      _, matches_textEnd_iff.2 ⟨rfl, none⟩, ?_⟩
    · rw [atFront, front]
    · rw [atFront, hostFront]
    · rw [hostFront, dotFront]
    · rw [dotFront, topFront]
    · rw [topFront, none, List.append_nil]
    · rw [address.text]
      simp only [List.length_append, List.length_cons]
      omega

theorem isMatch_iff (s : String) : Regex.isMatch ⟨expr⟩ s = true ↔
    ∃ name host top, Parts s.toList name host top := by
  rw [Regex.isMatch_iff]
  constructor
  · rintro ⟨i, j, inside, found⟩
    exact ((matches_expr_iff inside).1 found).2.2
  · intro address
    exact ⟨0, s.toList.length, Nat.zero_le _,
      (matches_expr_iff (Nat.zero_le _)).2 ⟨rfl, rfl, address⟩⟩

theorem isPart_iff {cs : List Char} : isPart cs = true ↔ IsPart cs := by
  constructor
  · intro sound
    cases cs with
    | nil => cases sound
    | cons c cs =>
        refine ⟨List.cons_ne_nil c cs, fun d mem => ?_⟩
        have plain := List.all_eq_true.1 (Bool.and_eq_true_iff.1 sound).2 d mem
        simpa [and_comm] using plain
  · rintro ⟨filled, plain⟩
    simpa [isPart, filled, and_comm] using plain

/-- The check finds the parts of an address: no part holds an at sign, so the first one is theirs,
and the last part holds no dot, so the last dot is theirs. -/
theorem isAddress_iff {cs : List Char} :
    isAddress cs = true ↔ ∃ name host top, Parts cs name host top := by
  constructor
  · intro address
    unfold isAddress at address
    split at address
    · cases address
    · next name domain first =>
      split at address
      · cases address
      · next host top last =>
        obtain ⟨rfl, -⟩ := eq_of_splitFirst first
        obtain ⟨rfl, dotless⟩ := splitLast_eq_some_iff.1 last
        simp only [Bool.and_eq_true, isPart_iff] at address
        obtain ⟨⟨isName, isHost⟩, isTop⟩ := address
        exact ⟨name, host, top, rfl, isName, isHost, isTop, dotless⟩
  · rintro ⟨name, host, top, address⟩
    have free : '@' ∉ name := fun mem => (address.isName.plain '@' mem).1 rfl
    have last : splitLast '.' (host ++ '.' :: top) = some (host, top) :=
      splitLast_eq_some_iff.2 ⟨rfl, address.dotless⟩
    unfold isAddress
    rw [address.text, splitFirst_append free]
    simp only [last, Bool.and_eq_true, isPart_iff]
    exact ⟨⟨address.isName, address.isHost⟩, address.isTop⟩

/-- A text is an address just if it is three parts with an at sign and a dot between them, none of
them empty, none with an at sign or a blank in it, and the last one without a dot.  The pattern of
addresses matches just these texts. -/
theorem isValid_iff_grammar :
    (∃ r, Regex.compile? pattern = some r ∧ ∀ s, isValid s = r.isMatch s) ∧
    ∀ s, isValid s = true ↔ ∃ name host top : String, s = name ++ "@" ++ host ++ "." ++ top ∧
      IsPart name.toList ∧ IsPart host.toList ∧ IsPart top.toList ∧ '.' ∉ top.toList := by
  constructor
  · refine ⟨⟨expr⟩, compile?_pattern, fun s => ?_⟩
    rw [Bool.eq_iff_iff, isMatch_iff, isValid, isAddress_iff]
  · intro s
    rw [isValid, isAddress_iff]
    constructor
    · rintro ⟨name, host, top, address⟩
      refine ⟨String.ofList name, String.ofList host, String.ofList top, ?_, ?_⟩
      · rw [← String.toList_inj, address.text]
        simp
      · simp only [String.toList_ofList]
        exact ⟨address.isName, address.isHost, address.isTop, address.dotless⟩
    · rintro ⟨name, host, top, rfl, isName, isHost, isTop, dotless⟩
      exact ⟨name.toList, host.toList, top.toList, by simp, isName, isHost, isTop, dotless⟩

example : isValid "ann@.mail..example" = true ∧ isValid "ann@mail.example\n" = false := by
  decide

end Email

end FormRules
