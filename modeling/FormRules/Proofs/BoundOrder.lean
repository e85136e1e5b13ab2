import Mathlib.Algebra.Order.Field.Basic
import Mathlib.Data.Rat.Cast.Order
import FormRules.Proofs.ListedValues
import FormRules.Proofs.NumericBounds
import FormRules.Proofs.OrderIndependence

/-!
# The order of bounds

Numbers are rounded before they are compared, and rounding keeps their order.  So a
field with a wider bound accepts whatever it accepts with a narrower one, and a
larger number passes every lower bound that a smaller one passes.  An exact size is
a lower and an upper bound in one, whatever it is that the size counts.
-/

namespace FormRules

/-! ## Values of numbers -/

def Binary64.value (x : Binary64) : ℚ :=
  x.scaled / unitsPerOne

namespace Number

/-- The value of a number, before any rounding. -/
def value : Number → ℚ
  | .int i _ => i
  | .float x => x.value

/-- The value of a number, counted in the least positive magnitude. -/
def scaled : Number → Int
  | .int i _ => i * Binary64.unitsPerOne
  | .float x => x.scaled

variable {v w : Number}

theorem value_eq (v : Number) : v.value = v.scaled / Binary64.unitsPerOne := by
  cases v with
  | int i fits =>
      have positive : (Binary64.unitsPerOne : ℚ) ≠ 0 :=
        Nat.cast_ne_zero.2 Binary64.unitsPerOne_pos.ne'
      have whole : ((i * Binary64.unitsPerOne : Int) : ℚ) = i * Binary64.unitsPerOne := by
        rw [Int.cast_mul, Int.cast_natCast]
      change (i : ℚ) = ((i * Binary64.unitsPerOne : Int) : ℚ) / Binary64.unitsPerOne
      rw [whole, mul_div_cancel_right₀ _ positive]
  | float x => rfl

theorem value_le_iff : v.value ≤ w.value ↔ v.scaled ≤ w.scaled := by
  have positive : (0 : ℚ) < Binary64.unitsPerOne := Nat.cast_pos.2 Binary64.unitsPerOne_pos
  rw [value_eq, value_eq, div_le_div_iff_of_pos_right positive, Int.cast_le]

theorem fits_int {i : Int} (fits : -9223372036854775808 ≤ i ∧ i < 18446744073709551616) :
    Binary64.Fits i :=
  Binary64.fits_of_le_word (by omega)

theorem toBinary64_mono (h : v.value ≤ w.value) : v.toBinary64 ≤ w.toBinary64 := by
  rw [value_le_iff] at h
  have positive : (0 : Int) < Binary64.unitsPerOne := Int.natCast_pos.2 Binary64.unitsPerOne_pos
  cases v with
  | int i fits =>
      cases w with
      | int j fits' =>
          have order : i ≤ j := le_of_mul_le_mul_right h positive
          exact Binary64.ofInt_mono (fits_int fits) (fits_int fits') order
      | float y =>
          -- The other number is itself among those of which the rounded one is the nearest.
          have nearest := Binary64.ofInt_nearest (fits_int fits) y
          change i * Binary64.unitsPerOne ≤ y.scaled at h
          change Binary64.ofInt i ≤ y
          rw [Binary64.le_iff_scaled_le]
          omega
  | float x =>
      cases w with
      | int j fits' =>
          have nearest := Binary64.ofInt_nearest (fits_int fits') x
          change x.scaled ≤ j * Binary64.unitsPerOne at h
          change x ≤ Binary64.ofInt j
          rw [Binary64.le_iff_scaled_le]
          omega
      | float y => exact Binary64.le_iff_scaled_le.2 h

end Number

/-! ## Checks -/

namespace Binary64

protected theorem le_trans {x y z : Binary64} (h : x ≤ y) (h' : y ≤ z) : x ≤ z :=
  Int.le_trans h h'

theorem sameValue_iff_le {x y : Binary64} : x.sameValue y = true ↔ x ≤ y ∧ y ≤ x := by
  rw [sameValue_iff, le_iff_scaled_le, le_iff_scaled_le, le_antisymm_iff]

theorem ofInt_toInt_mono {m n : Int64} (h : m ≤ n) : ofInt m.toInt ≤ ofInt n.toInt := by
  have fits (k : Int64) : Fits k.toInt := by
    have low := Int64.le_toInt k
    have high := Int64.toInt_lt k
    exact fits_of_le_word (by omega)
  exact ofInt_mono (fits m) (fits n) (Int64.le_iff_toInt_le.1 h)

end Binary64

namespace Check

variable {base : BaseType} {value : Json} {record : Option Record} {m n : Int64}

theorem min_eq_none_iff : (Check.min n).complaint? base value record = none ↔
    ∀ x, base.measure? value = some x → Binary64.ofInt n.toInt ≤ x := by
  simp only [complaint?, bounded_eq_none_iff, decide_eq_true_iff]

theorem max_eq_none_iff : (Check.max n).complaint? base value record = none ↔
    ∀ x, base.measure? value = some x → x ≤ Binary64.ofInt n.toInt := by
  simp only [complaint?, bounded_eq_none_iff, decide_eq_true_iff]

theorem min_of_le (h : m ≤ n) (passes : (Check.min n).complaint? base value record = none) :
    (Check.min m).complaint? base value record = none := by
  rw [min_eq_none_iff] at passes ⊢
  exact fun x measured => Binary64.le_trans (Binary64.ofInt_toInt_mono h) (passes x measured)

theorem max_of_le (h : m ≤ n) (passes : (Check.max m).complaint? base value record = none) :
    (Check.max n).complaint? base value record = none := by
  rw [max_eq_none_iff] at passes ⊢
  exact fun x measured => Binary64.le_trans (passes x measured) (Binary64.ofInt_toInt_mono h)

/-- A value without a size has any exact size, as it respects any bound. -/
theorem size_eq_none_iff : (Check.size n).complaint? base value record = none ↔
    (Check.min n).complaint? base value record = none ∧
      (Check.max n).complaint? base value record = none := by
  rw [min_eq_none_iff, max_eq_none_iff]
  simp only [complaint?, bounded_eq_none_iff, Binary64.sameValue_iff_le]
  grind

end Check

/-! ## Rules -/

namespace FieldRule

variable {now : DateTime} {value : Option Json} {record : Option Record}

/-- A rule has a schema if another one has, and accepts whatever that accepts: absent values, null
and others, alone and in every record. -/
def AcceptsAllOf (now : DateTime) (rule narrow : FieldRule) : Prop :=
  ∀ f, FieldSchema.compile now narrow = .ok f →
    ∃ g, FieldSchema.compile now rule = .ok g ∧
      ∀ value record, f.accepts value record = true → g.accepts value record = true

theorem acceptsAllOf_of_schema {rule rule' : FieldRule}
    (beyond : rule.isBeyond now = rule'.isBeyond now) (wider : ∀ value record,
      (rule'.schema now).complaint? value record = none →
        (rule.schema now).complaint? value record = none) : rule.AcceptsAllOf now rule' := by
  intro f compiled
  rw [FieldSchema.compile_eq] at compiled
  cases inside : rule'.isBeyond now with
  | true => simp [inside] at compiled
  | false =>
      simp only [inside, Bool.false_eq_true, if_false, Except.ok.injEq] at compiled
      subst compiled
      refine ⟨rule.schema now, by simp [FieldSchema.compile_eq, beyond, inside], ?_⟩
      simpa [FieldSchema.accepts] using wider

/-- In the place of one constraint another one whose check is passed more easily. -/
theorem acceptsAllOf_put {c c' : Constraint} {check check' : Check} (rule : FieldRule)
    (before after : List Constraint) (compiled : Check.of? now c = .ok (some check))
    (compiled' : Check.of? now c' = .ok (some check'))
    (weaker : ∀ v record, check.complaint? rule.base v record = none →
      check'.complaint? rule.base v record = none) :
    { rule with constraints := before ++ c' :: after }.AcceptsAllOf now
      { rule with constraints := before ++ c :: after } := by
  have parts (own : Constraint) :
      { rule with constraints := before ++ own :: after }.constraints = before ++ own :: after := rfl
  refine acceptsAllOf_of_schema ?_ fun value record accepted => ?_
  · rw [isBeyond_eq_others (parts c) compiled, isBeyond_eq_others (parts c') compiled']
  · rw [complaint?_eq_none_iff_own (parts c) compiled] at accepted
    rw [complaint?_eq_none_iff_own (parts c') compiled']
    exact ⟨accepted.1, fun v given present => weaker v record (accepted.2 v given present)⟩

/-- A lower and an upper bound of one number, one behind the other, accept what an exact size
accepts. -/
theorem accepts_compile_size (now : DateTime) (rule : FieldRule) (before after : List Constraint)
    (n : Int64) :
    (FieldSchema.compile now { rule with constraints := before ++ .size n :: after }).map
        FieldSchema.accepts =
      (FieldSchema.compile now
        { rule with constraints := before ++ .min n :: .max n :: after }).map
        FieldSchema.accepts := by
  have parts (own : Constraint) (later : List Constraint) :
      { rule with constraints := before ++ own :: later }.constraints = before ++ own :: later := rfl
  have sized : Check.of? now (.size n) = .ok (some (.size n)) := rfl
  have lower : Check.of? now (.min n) = .ok (some (.min n)) := rfl
  have upper : Check.of? now (.max n) = .ok (some (.max n)) := rfl
  refine accepts_compile_eq ?_ (FieldSchema.accepts_eq fun value record => ?_)
  · rw [isBeyond_eq_others (parts (.size n) after) sized,
      isBeyond_eq_others (parts (.min n) (.max n :: after)) lower,
      isBeyond_eq_others (parts (.max n) after) upper]
  · rw [complaint?_eq_none_iff_own (parts (.size n) after) sized,
      complaint?_eq_none_iff_own (parts (.min n) (.max n :: after)) lower,
      complaint?_eq_none_iff_own (parts (.max n) after) upper]
    simp only [Check.size_eq_none_iff]
    grind

/-- Of two bounds on one side, a field accepts with the wider one whatever it accepts with the
narrower one, among any other constraints.  Of two numbers, the larger one passes every lower bound
that the smaller one passes, and the smaller one every upper bound that the larger one passes; they
are compared by their values, whatever form each of them has. -/
theorem bounds_monotone (now : DateTime) (rule : FieldRule) (before after : List Constraint) :
    let bounded (c : Constraint) : FieldRule := { rule with constraints := before ++ c :: after }
    (∀ m n : Int64, m ≤ n → (bounded (.min m)).AcceptsAllOf now (bounded (.min n)) ∧
      (bounded (.max n)).AcceptsAllOf now (bounded (.max m))) ∧
    ∀ (n : Int64) (v w : Number), v.value ≤ w.value → ∀ required nullable record,
      let passes (c : Constraint) (x : Number) : Prop :=
        (numberWith required nullable c).Accepts now (.number x) record
      (passes (.min n) v → passes (.min n) w) ∧ (passes (.max n) w → passes (.max n) v) := by
  intro bounded
  refine ⟨fun m n order => ⟨?_, ?_⟩, fun n v w order required nullable record => ?_⟩
  · exact acceptsAllOf_put rule before after rfl rfl fun v record => Check.min_of_le order
  · exact acceptsAllOf_put rule before after rfl rfl fun v record => Check.max_of_le order
  · intro passes
    have rounded := Number.toBinary64_mono order
    have least (x : Number) : passes (.min n) x ↔ Binary64.ofInt n.toInt ≤ x.toBinary64 := by
      refine (accepts_numberWith_iff (.min n) rfl x).trans ?_
      simp [Check.min_eq_none_iff, BaseType.measure?]
    have most (x : Number) : passes (.max n) x ↔ x.toBinary64 ≤ Binary64.ofInt n.toInt := by
      refine (accepts_numberWith_iff (.max n) rfl x).trans ?_
      simp [Check.max_eq_none_iff, BaseType.measure?]
    rw [least, least, most, most]
    exact ⟨fun h => Binary64.le_trans h rounded, fun h => Binary64.le_trans rounded h⟩

/-- The least bound that is rounded lets the integer below it pass, and so does the bound below; a
float passes it since an integer below the float does. -/
theorem bounds_monotone_at_gap :
    let rule (lower : Constraint) : FieldRule :=
      { base := .number
        constraints := [.oneOf ["9007199254740992"], lower, .max 9007199254740993] }
    let value : Json := .number (.int 9007199254740992 (by decide))
    let v : Number := .int 9007199254740993 (by decide)
    let w : Number := .float (Binary64.ofNat 9007199254740994)
    let passes (x : Number) : Prop :=
      (numberWith true false (.min 9007199254740993)).Accepts .epoch (.number x) none
    (∃ f g, FieldSchema.compile .epoch (rule (.min 9007199254740993)) = .ok f ∧
      FieldSchema.compile .epoch (rule (.min 9007199254740992)) = .ok g ∧
      f.accepts (some value) none = true ∧ g.accepts (some value) none = true) ∧
    v.value ≤ w.value ∧ passes v ∧ passes w := by
  intro rule value v w passes
  obtain ⟨wider, -⟩ := bounds_monotone .epoch { base := .number } [.oneOf ["9007199254740992"]]
    [.max 9007199254740993]
  obtain ⟨-, larger⟩ := bounds_monotone .epoch { base := .number } [] []
  obtain ⟨f, hf⟩ : ∃ f, FieldSchema.compile .epoch (rule (.min 9007199254740993)) = .ok f :=
    ⟨_, rfl⟩
  obtain ⟨g, hg, more⟩ := (wider 9007199254740992 9007199254740993 (by decide)).1 f hf
  have accepted : f.accepts (some value) none = true := by
    cases hf
    decide +kernel
  have order : v.value ≤ w.value := Number.value_le_iff.2 (by decide +kernel)
  have least : passes v :=
    (accepts_numberWith_iff (.min 9007199254740993) rfl v).2 (by decide +kernel)
  exact ⟨⟨f, g, hf, hg, accepted, more _ _ accepted⟩, order, least,
    (larger 9007199254740993 v w order true false none).1 least⟩

end FieldRule

/-! ## Rules with an exact size -/

namespace RuleToken

variable {p : String} (plain : ',' ∉ p.toList) (field : String)
include plain

omit field in
theorem bound?_zero (name : String) : (of name (some p)).bound? 0 = parseBound? p := by
  have pieces : parametersIn (some p) = [p] := Text.piecesOf_of_not_mem plain
  simp [bound?, parameter?, pieces]

theorem constraints_size : (of "size" (some p)).constraints field =
    ((parseBound? p).map .size).toList := by
  rw [← bound?_zero plain "size"]
  rfl

theorem constraints_between : (of "between" (some (p ++ "," ++ p))).constraints field =
    ((parseBound? p).map .min).toList ++ ((parseBound? p).map .max).toList := by
  let t := of "between" (some (p ++ "," ++ p))
  have joined : p ++ "," ++ p = Text.joinTexts "," [p, p] := by
    simp [Text.joinTexts, Text.joinWith, ← String.toList_inj]
  have pieces : t.parameters = [p, p] := by
    have split : Text.piecesOf ',' (Text.joinTexts "," [p, p]) = [p, p] :=
      Text.piecesOf_joinTexts (by simp) (by simpa using plain)
    rw [← joined] at split
    exact split
  have first : t.bound? 0 = parseBound? p := by simp [bound?, parameter?, pieces]
  have second : t.bound? 1 = parseBound? p := by simp [bound?, parameter?, pieces]
  change ((t.bound? 0).map Constraint.min).toList ++ ((t.bound? 1).map Constraint.max).toList = _
  rw [first, second]

end RuleToken

namespace RuleSpec

/-- An exact size and two equal bounds say the same, at any place among other atoms: the type and
the flags are the same, and the field accepts the same values, alone and in every record.  If the
number cannot be read, neither of them says anything. -/
theorem size_as_two_bounds {p : String} (plain : ',' ∉ p.toList) (now : DateTime) (field : String)
    (before after : List RuleAtom) :
    let sized := (list (before ++ .text ("size:" ++ p) :: after)).normalize field
    let between := (list (before ++ .text ("between:" ++ p ++ "," ++ p) :: after)).normalize field
    let others := (list (before ++ after)).normalize field
    (sized.base = between.base ∧ sized.required = between.required ∧
      sized.nullable = between.nullable) ∧
    (FieldSchema.compile now sized).map FieldSchema.accepts =
      (FieldSchema.compile now between).map FieldSchema.accepts ∧
    (parseBound? p = none → sized = others ∧ between = others) ∧
    ∀ n, parseBound? p = some n →
      sized = { others with
        constraints := ((list before).normalize field).constraints ++
          .size n :: ((list after).normalize field).constraints } ∧
      between = { others with
        constraints := ((list before).normalize field).constraints ++
          .min n :: .max n :: ((list after).normalize field).constraints } := by
  intro sized between others
  have sizedToken : (RuleAtom.text ("size:" ++ p)).token? = some (.of "size" (some p)) := by
    refine RuleAtom.token?_of_render (d := .size) (congrArg some ?_) rfl
    simp [RuleToken.text]
  have betweenToken : (RuleAtom.text ("between:" ++ p ++ "," ++ p)).token? =
      some (.of "between" (some (p ++ "," ++ p))) := by
    refine RuleAtom.token?_of_render (d := .between) (congrArg some ?_) rfl
    simp [RuleToken.text, ← String.toList_inj]
  have sizedRule : sized = _ :=
    normalize_insert (d := .size) sizedToken rfl rfl rfl field before after
  have betweenRule : between = _ :=
    normalize_insert (d := .between) betweenToken rfl rfl rfl field before after
  rw [RuleToken.constraints_size plain] at sizedRule
  rw [RuleToken.constraints_between plain] at betweenRule
  have without : others.constraints = _ := constraints_normalize_append field before after
  rw [sizedRule, betweenRule]
  refine ⟨⟨rfl, rfl, rfl⟩, ?_, fun dropped => ?_, fun n read => ?_⟩
  · cases read : parseBound? p with
    | none => simp
    | some n =>
        simpa using FieldRule.accepts_compile_size now others
          ((list before).normalize field).constraints ((list after).normalize field).constraints n
  · simp only [dropped, Option.map_none, Option.toList_none, List.append_nil, ← without]
    exact ⟨rfl, rfl⟩
  · simp [read, others]

/-- Blanks and a fraction do not matter; a word is no size. -/
theorem codes_size_as_two_bounds :
    let code (own : String) : FieldRule :=
      (list [.text "required", .text own, .text "regex:^[A-Z]"]).normalize "code"
    ',' ∉ " 3.9 ".toList ∧ ',' ∉ "three".toList ∧
    code "size: 3.9 " = { required := true, constraints := [.size 3, .pattern "^[A-Z]"] } ∧
    (FieldSchema.compile .epoch (code "size: 3.9 ")).map FieldSchema.accepts =
      (FieldSchema.compile .epoch (code "between: 3.9 , 3.9 ")).map FieldSchema.accepts ∧
    code "size:three" = { required := true, constraints := [.pattern "^[A-Z]"] } ∧
    code "between:three,three" = code "size:three" := by
  intro code
  have plain : ',' ∉ " 3.9 ".toList := by decide
  have plain' : ',' ∉ "three".toList := by decide
  obtain ⟨-, same, -, read⟩ :=
    size_as_two_bounds plain .epoch "code" [.text "required"] [.text "regex:^[A-Z]"]
  obtain ⟨-, -, dropped, -⟩ :=
    size_as_two_bounds plain' .epoch "code" [.text "required"] [.text "regex:^[A-Z]"]
  obtain ⟨sized, between⟩ := dropped (by decide)
  exact ⟨plain, plain', (read 3 (by decide +kernel)).1.trans (by decide), same,
    sized.trans (by decide), between.trans sized.symm⟩

end RuleSpec

end FormRules
