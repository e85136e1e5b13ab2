import FormRules.Proofs.Interchange
import FormRules.Proofs.Literal
import FormRules.Proofs.TokenText

/-!
# Rules that can be written

Not every field rule comes from a rule text: commas divide parameters, blanks at
their ends are lost, and some parameters stand for none.  The rules that can be
written are those whose constraints survive all this, and each of them has a
canonical list of atoms.
-/

namespace FormRules

/-! ## Writable constraints -/

namespace Text

structure IsParameter (s : String) : Prop where
  filled : s ≠ ""
  trimmed : IsTrimmed s.toList
  whole : ',' ∉ s.toList

/-- The name of a table or column that can be written: the word `null`, in capitals or not, stands
for no name. -/
structure IsTableName (s : String) : Prop extends IsParameter s where
  given : lowerAsciiText s ≠ "null"

end Text

open Text

def Constraint.IsWritable (field : String) : Constraint → Prop
  | .confirmed other => other = field ++ "_confirmation"
  | .pattern text => text ≠ ""
  | .after date => IsParameter date
  | .before date => IsParameter date
  | .unique table column => (∀ s ∈ table, IsTableName s) ∧ ∀ s ∈ column, IsTableName s
  | .existing table column => (∀ s ∈ table, IsTableName s) ∧ ∀ s ∈ column, IsTableName s
  | .oneOf values => ∀ s ∈ values, ',' ∉ s.toList
  | .mimes types => ∀ s ∈ types, ',' ∉ s.toList
  | .min _ | .max _ | .size _ | .image | .email | .url => True

/-! ## What is written is writable -/

namespace RuleToken

variable {t : RuleToken} {index : Nat} {s : String}

theorem isParameter_of_filled? (divided : t.IsDivided) (h : t.filled? index = some s) :
    IsParameter s := by
  obtain ⟨trimmed, filled⟩ := Option.filter_eq_some_iff.1 h
  obtain ⟨p, hp, rfl⟩ := Option.map_eq_some_iff.1 trimmed
  refine ⟨by simpa using filled, ?_, ?_⟩
  · rw [trimText, String.toList_ofList]
    exact isTrimmed_trim p.toList
  · rw [trimText, String.toList_ofList]
    intro comma
    exact divided.comma_not_mem (List.mem_of_getElem? hp) (mem_of_mem_trim comma)

theorem isTableName_of_tableName? (divided : t.IsDivided) (h : t.tableName? index = some s) :
    IsTableName s := by
  obtain ⟨filled, given⟩ := Option.filter_eq_some_iff.1 h
  exact ⟨isParameter_of_filled? divided filled, by simpa using given⟩

/-- The constraints that a token adds can be written, whatever its name and its parameters are. -/
theorem isWritable_of_mem_constraints {field : String} {c : Constraint} (divided : t.IsDivided)
    (h : c ∈ t.constraints field) : c.IsWritable field := by
  have tables : (∀ s ∈ t.tableName? 0, IsTableName s) ∧ ∀ s ∈ t.tableName? 1, IsTableName s :=
    ⟨fun s hs => isTableName_of_tableName? divided hs,
      fun s hs => isTableName_of_tableName? divided hs⟩
  have free : ∀ s ∈ t.parameters, ',' ∉ s.toList := fun s hs => divided.comma_not_mem hs
  unfold constraints at h
  cases hd : Directive.ofName? t.name with
  | none => simp [hd] at h
  | some d =>
      rw [hd] at h
      -- One case for each shape that the arguments of a directive have.
      cases d with
      | required | nullable | ofType => cases h
      | email | url | image =>
          obtain rfl := List.mem_singleton.1 h
          trivial
      | min | max | size =>
          obtain ⟨n, -, rfl⟩ := Option.map_eq_some_iff.1 (Option.mem_toList.1 h)
          trivial
      | between =>
          rcases List.mem_append.1 h with h | h <;>
            obtain ⟨n, -, rfl⟩ := Option.map_eq_some_iff.1 (Option.mem_toList.1 h) <;> trivial
      | oneOf | mimes =>
          obtain rfl := List.mem_singleton.1 h
          exact free
      | pattern =>
          obtain ⟨text, given, rfl⟩ := Option.map_eq_some_iff.1 (Option.mem_toList.1 h)
          have filled : text ≠ "" := of_decide_eq_true (Option.filter_eq_some_iff.1 given).2
          exact filled
      | confirmed =>
          obtain rfl := List.mem_singleton.1 h
          rfl
      | unique | existing =>
          obtain rfl := List.mem_singleton.1 h
          exact tables
      | after | before =>
          obtain ⟨date, given, rfl⟩ := Option.map_eq_some_iff.1 (Option.mem_toList.1 h)
          exact isParameter_of_filled? divided given

end RuleToken

/-! ## Canonical tokens -/

def tableText (name : Option String) : String :=
  name.getD "NULL"

def boundText (bound : Int64) : String :=
  String.ofList (Decimal.integer bound.toInt)

def Constraint.token : Constraint → RuleToken
  | .min bound => .of "min" (RuleToken.rawOf [boundText bound])
  | .max bound => .of "max" (RuleToken.rawOf [boundText bound])
  | .size bound => .of "size" (RuleToken.rawOf [boundText bound])
  | .oneOf values => .of "in" (RuleToken.rawOf values)
  | .pattern text => .of "regex" (some text)
  | .confirmed _ => .of "confirmed" none
  | .unique table column => .of "unique" (RuleToken.rawOf [tableText table, tableText column])
  | .existing table column => .of "exists" (RuleToken.rawOf [tableText table, tableText column])
  | .after date => .of "after" (RuleToken.rawOf [date])
  | .before date => .of "before" (RuleToken.rawOf [date])
  | .mimes types => .of "mimes" (RuleToken.rawOf types)
  | .image => .of "image" none
  | .email => .of "email" none
  | .url => .of "url" none

def BaseType.token : BaseType → RuleToken
  | .number => .of "numeric" none
  | base => .of base.name none

/-- The tokens of a rule.  The type comes last, as some constraints set it, too. -/
def FieldRule.tokens (rule : FieldRule) : List RuleToken :=
  (if rule.required then [.of "required" none] else []) ++
    (if rule.nullable then [.of "nullable" none] else []) ++
    rule.constraints.map Constraint.token ++ [rule.base.token]

namespace RuleToken

theorem bound?_boundText (name : String) (bound : Int64) :
    (of name (rawOf [boundText bound])).bound? 0 = some bound := by
  have free : ∀ p ∈ [boundText bound], ',' ∉ p.toList := by
    intro p hp
    rw [List.mem_singleton.1 hp, boundText, String.toList_ofList]
    exact comma_not_mem_integer bound.toInt
  unfold bound? parameter?
  rw [parameters_of, parametersIn_rawOf free, List.getElem?_cons_zero, Option.bind_some, boundText,
    parseBound?_integer]

theorem filled?_of_isParameter {t : RuleToken} {index : Nat} {s : String} (h : IsParameter s)
    (given : t.parameters[index]? = some s) : t.filled? index = some s := by
  have same : trimText s = s := by
    rw [trimText, trim_of_isTrimmed h.trimmed, String.ofList_toList]
  unfold filled? parameter?
  rw [given]
  simp [same, h.filled]

theorem filled?_rawOf (name : String) {date : String} (h : IsParameter date) :
    (of name (rawOf [date])).filled? 0 = some date := by
  refine filled?_of_isParameter h ?_
  rw [parameters_of, parametersIn_rawOf (by simpa using h.whole)]
  rfl

theorem tableName?_tableText {t : RuleToken} {index : Nat} {name : Option String}
    (h : ∀ s ∈ name, IsTableName s) (given : t.parameters[index]? = some (tableText name)) :
    t.tableName? index = name := by
  unfold tableName?
  cases name with
  | none =>
      have null : IsParameter "NULL" := ⟨by decide, by decide, by decide⟩
      rw [filled?_of_isParameter null given]
      decide
  | some s =>
      have table := h s rfl
      rw [filled?_of_isParameter table.toIsParameter given]
      simp [table.given]

theorem tableNames_rawOf (name : String) {table column : Option String}
    (h : (∀ s ∈ table, IsTableName s) ∧ ∀ s ∈ column, IsTableName s) :
    let t : RuleToken := of name (rawOf [tableText table, tableText column])
    t.tableName? 0 = table ∧ t.tableName? 1 = column := by
  intro t
  have free {name : Option String} (h : ∀ s ∈ name, IsTableName s) :
      ',' ∉ (tableText name).toList := by
    cases name with
    | none => decide
    | some s => exact (h s rfl).whole
  have given : t.parameters = [tableText table, tableText column] := by
    rw [parameters_of]
    refine parametersIn_rawOf fun p hp => ?_
    simp only [List.mem_cons, List.not_mem_nil, or_false] at hp
    rcases hp with rfl | rfl
    · exact free h.1
    · exact free h.2
  constructor
  · exact tableName?_tableText h.1 (by rw [given]; rfl)
  · exact tableName?_tableText h.2 (by rw [given]; rfl)

end RuleToken

namespace Constraint

/-- A constraint that can be written is read back from its token. -/
theorem constraints_token {field : String} {c : Constraint} (h : c.IsWritable field) :
    c.token.constraints field = [c] := by
  cases c with
  | min bound | max bound | size bound =>
      simp only [token, RuleToken.constraints, RuleToken.bound?_boundText]
      rfl
  | oneOf texts | mimes texts =>
      simp only [token, RuleToken.constraints, RuleToken.parameters_of, RuleToken.parametersIn_rawOf h]
      rfl
  | pattern text =>
      have filled : text ≠ "" := h
      have given : (RuleToken.of "regex" (some text)).pattern? = some text := by
        simp [RuleToken.pattern?, filled]
      simp only [token, RuleToken.constraints, given]
      rfl
  | confirmed other =>
      obtain rfl : other = field ++ "_confirmation" := h
      rfl
  | unique table column =>
      obtain ⟨first, second⟩ := RuleToken.tableNames_rawOf "unique" h
      simp only [token, RuleToken.constraints, first, second]
      rfl
  | existing table column =>
      obtain ⟨first, second⟩ := RuleToken.tableNames_rawOf "exists" h
      simp only [token, RuleToken.constraints, first, second]
      rfl
  | after date | before date =>
      simp only [token, RuleToken.constraints, RuleToken.filled?_rawOf _ h]
      rfl
  | image | email | url => rfl

theorem exists_token (c : Constraint) :
    ∃ name raw d, Directive.ofName? name = some d ∧ c.token = .of name raw := by
  cases c <;> exact ⟨_, _, _, rfl, rfl⟩

end Constraint

namespace BaseType

theorem ofName?_token (base : BaseType) :
    Directive.ofName? base.token.name = some (.ofType base) := by
  cases base <;> rfl

theorem type?_token (base : BaseType) : base.token.type? = some base := by
  cases base <;> rfl

theorem exists_token (base : BaseType) :
    ∃ name raw d, Directive.ofName? name = some d ∧ base.token = .of name raw := by
  cases base <;> exact ⟨_, _, _, rfl, rfl⟩

end BaseType

/-! ## Rules from canonical tokens -/

namespace FieldRule

variable {field : String} {rule : FieldRule}

theorem settledType_tokens (rule : FieldRule) :
    RuleToken.settledType rule.tokens = rule.base := by
  unfold RuleToken.settledType tokens
  rw [List.filterMap_append, List.filterMap_cons_some (BaseType.type?_token rule.base)]
  simp

theorem any_tokens (rule : FieldRule) :
    (rule.tokens.any fun t => t.name = "required") = rule.required ∧
      (rule.tokens.any fun t => t.name = "nullable") = rule.nullable := by
  have constraint (c : Constraint) : c.token.name ≠ "required" ∧ c.token.name ≠ "nullable" := by
    cases c <;> simp [Constraint.token]
  have type : rule.base.token.name ≠ "required" ∧ rule.base.token.name ≠ "nullable" := by
    cases rule.base <;> decide
  unfold tokens
  cases rule.required <;> cases rule.nullable <;> simp [constraint, type]

theorem flatMap_constraints_tokens (writable : ∀ c ∈ rule.constraints, c.IsWritable field) :
    rule.tokens.flatMap (RuleToken.constraints field) = rule.constraints := by
  have flags : ∀ b : Bool, ∀ name, name = "required" ∨ name = "nullable" →
      (if b then [RuleToken.of name none] else []).flatMap (RuleToken.constraints field) =
        [] := by
    rintro (_ | _) name (rfl | rfl) <;> rfl
  -- A type names no check, so the last token settles the type and adds nothing.
  have type : rule.base.token.constraints field = [] := by
    unfold RuleToken.constraints
    rw [BaseType.ofName?_token]
  have each : (rule.constraints.map Constraint.token).flatMap (RuleToken.constraints field) =
      rule.constraints := by
    rw [List.flatMap_map, List.flatMap_congr fun c hc => Constraint.constraints_token (writable c hc)]
    exact List.flatMap_singleton' rule.constraints
  unfold tokens
  rw [List.flatMap_append, List.flatMap_append, List.flatMap_append, each,
    flags _ _ (.inl rfl), flags _ _ (.inr rfl), List.flatMap_singleton, type]
  simp

/-- A rule whose constraints can be written is what its tokens say. -/
theorem ofTokens_tokens (writable : ∀ c ∈ rule.constraints, c.IsWritable field) :
    ofTokens field rule.tokens = rule := by
  obtain ⟨required, nullable⟩ := any_tokens rule
  rw [ofTokens_eq, settledType_tokens, required, nullable, flatMap_constraints_tokens writable]

theorem exists_of_mem_tokens {t : RuleToken} (h : t ∈ rule.tokens) :
    ∃ name raw d, Directive.ofName? name = some d ∧ t = .of name raw := by
  have flag {b : Bool} {name : String} {d : Directive} (known : Directive.ofName? name = some d)
      (h : t ∈ if b then [.of name none] else []) :
      ∃ name raw d, Directive.ofName? name = some d ∧ t = .of name raw := by
    cases b with
    | true => exact ⟨name, none, d, known, List.mem_singleton.1 h⟩
    | false => cases h
  unfold tokens at h
  simp only [List.mem_append, List.mem_singleton, List.mem_map] at h
  rcases h with ((required | nullable) | ⟨c, -, rfl⟩) | rfl
  · exact flag (d := .required) rfl required
  · exact flag (d := .nullable) rfl nullable
  · exact c.exists_token
  · exact rule.base.exists_token

def atoms (rule : FieldRule) : List String :=
  rule.tokens.map RuleToken.text

theorem tokens_atoms (rule : FieldRule) :
    (RuleSpec.list (rule.atoms.map .text)).tokens = rule.tokens := by
  have read : ∀ t ∈ rule.tokens, (RuleToken.parse? ∘ RuleToken.text) t = some t := by
    intro t ht
    obtain ⟨name, raw, d, known, rfl⟩ := exists_of_mem_tokens ht
    exact RuleToken.parse?_text (RuleToken.isName_of_ofName? known)
      (RuleToken.isDivided_of name raw)
  rw [RuleSpec.tokens_list_texts, atoms, List.filterMap_map, List.filterMap_congr read]
  exact List.filterMap_some

theorem normalize_atoms (writable : ∀ c ∈ rule.constraints, c.IsWritable field) :
    (RuleSpec.list (rule.atoms.map .text)).normalize field = rule := by
  rw [RuleSpec.normalize, tokens_atoms, ofTokens_tokens writable]

/-- Whatever specification a field has, its constraints can be written. -/
theorem isWritable_of_normalize {spec : RuleSpec} {c : Constraint}
    (h : c ∈ (spec.normalize field).constraints) : c.IsWritable field := by
  rw [RuleSpec.normalize, ofTokens_eq] at h
  obtain ⟨t, ht, hc⟩ := List.mem_flatMap.1 h
  obtain ⟨atom, -, read⟩ := List.mem_filterMap.1 ht
  obtain ⟨text, -, parsed⟩ := Option.bind_eq_some_iff.1 read
  have divided : t.IsDivided := (RuleToken.parse?_eq_some_iff.1 parsed).isDivided
  exact RuleToken.isWritable_of_mem_constraints divided hc

/-- A rule is what some list of rule texts says about a field exactly if each of its constraints
can be written: a confirmation names the companion of the field, a pattern is not empty, a date is
a parameter that needs no trimming, a table or column, if any, is such a parameter other than the
word `null`, and listed values hold no comma.  Bounds, the type and the flags are free. -/
theorem expressible_iff (field : String) (rule : FieldRule) :
    (∃ texts : List String, (RuleSpec.list (texts.map .text)).normalize field = rule) ↔
      ∀ c ∈ rule.constraints, c.IsWritable field := by
  constructor
  · rintro ⟨texts, rfl⟩ c hc
    exact isWritable_of_normalize hc
  · intro writable
    exact ⟨rule.atoms, normalize_atoms writable⟩

/-- No value and one empty value are told apart, a missing table is spelled out, and the type stands
behind the address that would set another one. -/
example :
    let rule : FieldRule :=
      { base := .date, nullable := true, constraints := [.email, .oneOf [], .mimes [""],
        .unique none (some "e:mail"), .pattern " |,", .confirmed "at_confirmation"] }
    rule.atoms = ["nullable", "email", "in", "mimes:", "unique:NULL,e:mail", "regex: |,",
        "confirmed", "date"] ∧
      (RuleSpec.list (rule.atoms.map .text)).normalize "at" = rule := by
  decide

end FieldRule

end FormRules
