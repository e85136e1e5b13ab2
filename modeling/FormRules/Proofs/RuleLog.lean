import Mathlib.Algebra.GroupWithZero.Nat
import FormRules.Proofs.Normalization

/-!
# The log of a normalization

Whatever a token promises shows: each of its constraints is in the rule, or the
log has a warning that it was dropped.  Nothing else is warned about, and the
log tells of the tokens one after the other.
-/

namespace FormRules

/-! ## What names promise -/

namespace Directive

/-- The number of constraints that a directive stands for. -/
def promises : Directive → Nat
  | .required | .nullable | .ofType _ => 0
  | .between => 2
  | _ => 1

def promisesOf (name : String) : Nat :=
  if name = "between" then 2 else if name ∈ constraintNames then 1 else 0

theorem promisesOf_of_ofName? {name : String} {d : Directive} (h : ofName? name = some d) :
    promisesOf name = d.promises := by
  have all : ∀ e ∈ names, promisesOf e.1 = e.2.promises := by decide
  exact all _ (mem_names_of_ofName? h)

theorem promisesOf_eq_zero {name : String} (h : ofName? name = none) : promisesOf name = 0 := by
  have unknown : name ∉ Entries.keys names := Entries.get?_eq_none_iff.1 h
  have known : ∀ constraint ∈ constraintNames, constraint ∈ Entries.keys names := by decide
  have other : name ≠ "between" := by
    rintro rfl
    exact unknown (by decide)
  unfold promisesOf
  rw [if_neg other, if_neg fun h => unknown (known name h)]

end Directive

/-! ## Kinds of events -/

namespace Event

def isDrop (e : Event) : Bool :=
  e.level = .warn && e.message = "constraint dropped"

def isUnmapped (e : Event) : Bool :=
  e.level = .trace && e.message = "unmapped rule ignored"

@[simp] theorem isDrop_constraintDropped (field rule : String) (reason : DropReason) :
    (constraintDropped field rule reason).isDrop = true := rfl

@[simp] theorem isUnmapped_constraintDropped (field rule : String) (reason : DropReason) :
    (constraintDropped field rule reason).isUnmapped = false := rfl

@[simp] theorem isDrop_ruleUnmapped (field name : String) :
    (ruleUnmapped field name).isDrop = false := rfl

@[simp] theorem isUnmapped_ruleUnmapped (field name : String) :
    (ruleUnmapped field name).isUnmapped = true := rfl

end Event

/-! ## One token -/

namespace RuleToken

variable (field : String) (t : RuleToken)

/-- The events of one token are about it: that its name is not known, or that one of its constraints
was dropped. -/
theorem mem_events {field : String} {t : RuleToken} {e : Event} (h : e ∈ t.events field) :
    (Directive.ofName? t.name = none ∧ e = .ruleUnmapped field t.name) ∨
      ∃ reason, e = .constraintDropped field t.text reason := by
  have dropped {given : Bool} {reason : DropReason} (h : e ∈ t.dropped field given reason) :
      e = .constraintDropped field t.text reason := by
    cases given <;> simp_all [RuleToken.dropped]
  unfold events at h
  split at h
  · rename_i unknown
    exact .inl ⟨unknown, List.mem_singleton.1 h⟩
  · exact .inr ⟨_, dropped h⟩
  · exact .inr ⟨_, dropped h⟩
  · exact .inr ⟨_, dropped h⟩
  · exact .inr ⟨_, (List.mem_append.1 h).elim dropped dropped⟩
  · exact .inr ⟨_, dropped h⟩
  · exact .inr ⟨_, dropped h⟩
  · exact .inr ⟨_, dropped h⟩
  · cases h

/-- A parameter gives its constraint, or the event that it was dropped. -/
theorem length_add_countP_dropped {α : Type} (parameter : Option α) (build : α → Constraint)
    (reason : DropReason) :
    (parameter.map build).toList.length +
      (t.dropped field parameter.isSome reason).countP Event.isDrop = 1 := by
  cases parameter <;> simp [dropped]

/-- What a token promises is a constraint or is warned about. -/
theorem length_constraints_add_countP :
    (t.constraints field).length + (t.events field).countP Event.isDrop =
      Directive.promisesOf t.name := by
  have one {α : Type} := length_add_countP_dropped (α := α) field t
  cases h : Directive.ofName? t.name with
  | none => simp [constraints, events, h, Directive.promisesOf_eq_zero h]
  | some d =>
      rw [Directive.promisesOf_of_ofName? h]
      cases d with
      | between =>
          have least := one (t.bound? 0) .min .notInteger
          have most := one (t.bound? 1) .max .notInteger
          simp only [constraints, events, h, List.length_append, List.countP_append,
            Directive.promises]
          omega
      | min => simp only [constraints, events, h, one, Directive.promises]
      | max => simp only [constraints, events, h, one, Directive.promises]
      | size => simp only [constraints, events, h, one, Directive.promises]
      | pattern => simp only [constraints, events, h, one, Directive.promises]
      | after => simp only [constraints, events, h, one, Directive.promises]
      | before => simp only [constraints, events, h, one, Directive.promises]
      | _ => simp [constraints, events, h, Directive.promises]

/-- A token is noted as unmapped, once, if its name is not known. -/
theorem countP_isUnmapped_events :
    (t.events field).countP Event.isUnmapped =
      if t.name ∈ Entries.keys Directive.names then 0 else 1 := by
  cases h : Directive.ofName? t.name with
  | none =>
      have unknown : t.name ∉ Entries.keys Directive.names := Entries.get?_eq_none_iff.1 h
      simp [events, h, unknown]
  | some d =>
      have known : t.name ∈ Entries.keys Directive.names :=
        List.mem_map_of_mem (f := Prod.fst) (Directive.mem_names_of_ofName? h)
      rw [if_pos known, List.countP_eq_zero]
      intro e he
      rcases mem_events he with ⟨unknown, -⟩ | ⟨reason, rfl⟩
      · rw [h] at unknown
        cases unknown
      · simp

end RuleToken

/-! ## The run over all tokens -/

namespace FieldRule

variable (field : String)

/-- A run with a log gives the rule of the run without one, and adds to the log what each token has
to tell, in order. -/
theorem foldl_applyLogged (state : FieldRule × List Event) (tokens : List RuleToken) :
    tokens.foldl (applyLogged field) state =
      (tokens.foldl (apply field) state.1, state.2 ++ tokens.flatMap fun t => t.events field) := by
  induction tokens generalizing state with
  | nil => simp
  | cons t rest ih =>
      rw [List.foldl_cons, ih, List.foldl_cons, List.flatMap_cons]
      simp only [applyLogged, List.append_assoc]

theorem ofTokensLogged_eq (tokens : List RuleToken) :
    ofTokensLogged field tokens =
      (ofTokens field tokens, tokens.flatMap fun t => t.events field) := by
  unfold ofTokensLogged
  rw [foldl_applyLogged, List.nil_append, ofTokens]

theorem length_constraints_add_drops (tokens : List RuleToken) :
    (ofTokens field tokens).constraints.length +
        (tokens.flatMap fun t => t.events field).countP Event.isDrop =
      (tokens.map fun t => Directive.promisesOf t.name).sum := by
  rw [ofTokens_eq]
  induction tokens with
  | nil => rfl
  | cons t rest ih =>
      have head := t.length_constraints_add_countP field
      simp only [List.flatMap_cons, List.length_append, List.countP_append, List.map_cons,
        List.sum_cons] at ih ⊢
      omega

theorem countP_isUnmapped_log (tokens : List RuleToken) :
    (tokens.flatMap fun t => t.events field).countP Event.isUnmapped =
      tokens.countP fun t => t.name ∉ Entries.keys Directive.names := by
  induction tokens with
  | nil => rfl
  | cons t rest ih =>
      rw [List.flatMap_cons, List.countP_append, List.countP_cons, ih,
        t.countP_isUnmapped_events field]
      by_cases known : t.name ∈ Entries.keys Directive.names <;> simp [known, Nat.add_comm]

/-- No constraint is lost silently.  Together, the constraints of a rule and the warnings in its log
are as many as the tokens promise: `between` stands for two, any other name of a constraint for one,
and every other name for none.  A name that is not known is noted once for each of its tokens.  The
log is made up of the logs of the single tokens, in their order, and each of these speaks of its own
token only: by name if that is not known, and by text if a constraint of it was dropped. -/
theorem constraints_accounted_for (tokens : List RuleToken) :
    let (rule, log) := ofTokensLogged field tokens
    rule = ofTokens field tokens ∧
    rule.constraints.length + log.countP Event.isDrop =
      (tokens.map fun t => Directive.promisesOf t.name).sum ∧
    log.countP Event.isUnmapped =
      tokens.countP (fun t => t.name ∉ Entries.keys Directive.names) ∧
    log = tokens.flatMap (fun t => (ofTokensLogged field [t]).2) ∧
    ∀ t : RuleToken, ∀ e ∈ (ofTokensLogged field [t]).2,
      e = .ruleUnmapped field t.name ∨ ∃ reason, e = .constraintDropped field t.text reason := by
  simp only [ofTokensLogged_eq, List.flatMap_singleton]
  refine ⟨trivial, length_constraints_add_drops field tokens, countP_isUnmapped_log field tokens,
    trivial, fun t e he => ?_⟩
  exact (RuleToken.mem_events he).imp And.right id

/-- The lower bound can be read and the upper one cannot; the pattern is missing and `sometimes` has
no meaning. -/
example :
    ofTokensLogged "code" [.of "between" (some "5,x"), .of "sometimes" none,
        .of "regex" (some "")] =
      ({ constraints := [.min 5] },
        [.constraintDropped "code" "between:5,x" .notInteger, .ruleUnmapped "code" "sometimes",
          .constraintDropped "code" "regex:" .noPattern]) := by
  rfl

end FieldRule

end FormRules
