import FormRules.Payload
import FormRules.Proofs.Json.Longer
import FormRules.Proofs.LineRecords
import FormRules.Proofs.Transfer

/-!
# Text behind a value

A text is decoded up to the end of its value, and what follows is never looked
at.  So a rule set is decoded alike whatever is written behind it, and of several
records on one line the first one alone is checked.
-/

namespace FormRules

/-! ## Brackets -/

namespace Json.Decode

variable {α β : Type} {n : Nat} {more : List Char}

/-- What a step reads, another step reads with more text behind it, also where the text ends. -/
def Settles (more : List Char) (step longer : Decode α) : Prop :=
  ∀ ⦃cs a rest⦄, Yields step cs a rest →
    rest.length < cs.length ∧ Reads longer (cs ++ more) a (rest ++ more)

theorem Settles.carries {step longer : Decode α} (h : Settles more step longer) :
    Carries n more step longer := by
  intro cs a rest read _ _
  obtain ⟨shorter, reads⟩ := h read
  exact ⟨Nat.le_of_lt shorter, reads⟩

theorem settles_never {step longer : Decode α} (h : ∀ cs a rest, ¬Yields step cs a rest) :
    Settles more step longer :=
  fun cs a rest read => absurd read (h cs a rest)

/-- The text is not at its end before a step that takes something. -/
theorem Settles.after {step longer : Decode α} {next later : α → Decode β}
    (h : ∀ n, Carries n more step longer) (hn : ∀ a, Settles more (next a) (later a)) :
    Settles more (step >>= next) (longer >>= later) := by
  intro cs b rest read
  obtain ⟨a, mid, first, second⟩ := read.of_bind
  obtain ⟨shorter, reads⟩ := hn a second
  have unfinished : mid ≠ [] := List.ne_nil_of_length_pos (Nat.zero_lt_of_lt shorter)
  obtain ⟨bound, reads'⟩ := h _ first (Nat.le_refl _) unfinished
  exact ⟨Nat.lt_of_lt_of_le shorter bound, reads'.bind reads⟩

theorem Settles.before_pure {step longer : Decode α} (h : Settles more step longer)
    (f : α → β) : Settles more (do return f (← step)) (do return f (← longer)) := by
  intro cs b rest read
  obtain ⟨a, mid, first, last⟩ := read.of_bind
  obtain ⟨rfl, rfl⟩ := yields_pure last
  obtain ⟨shorter, reads⟩ := h first
  exact ⟨shorter, reads.bind (Reads.pure (f a) _)⟩

theorem Settles.placed {step longer : Decode α} (h : Settles more step longer) :
    Settles more (Decode.placed step) (Decode.placed longer) := by
  intro cs a rest read
  obtain ⟨shorter, reads⟩ := h read.of_placed
  exact ⟨shorter, reads.placed⟩

theorem Settles.closing {close close' : Decode Unit} {body longer : Decode α}
    (h : ∀ n, Carries n more body longer) (hc : Settles more close close') :
    Settles more (Decode.closing close body) (Decode.closing close' longer) := by
  intro cs a rest read
  obtain ⟨mid, first, second⟩ := read.of_closing
  obtain ⟨shorter, reads⟩ := hc second
  have unfinished : mid ≠ [] := List.ne_nil_of_length_pos (Nat.zero_lt_of_lt shorter)
  obtain ⟨bound, reads'⟩ := h _ first (Nat.le_refl _) unfinished
  exact ⟨Nat.lt_of_lt_of_le shorter bound, reads'.closing reads⟩

theorem settles_closeArray : Settles more closeArray closeArray := by
  intro cs u rest read
  obtain ⟨gap, rfl, blank⟩ := yields_closeArray read
  refine ⟨by simp only [List.length_append, List.length_cons]; omega, ?_⟩
  rw [List.append_assoc]
  exact reads_closeArray blank _

theorem settles_closeObject : Settles more closeObject closeObject := by
  intro cs u rest read
  obtain ⟨gap, rfl, blank⟩ := yields_closeObject read
  refine ⟨by simp only [List.length_append, List.length_cons]; omega, ?_⟩
  rw [List.append_assoc]
  exact reads_closeObject blank _

theorem settles_inArray {body longer : Decode α} (h : ∀ n, Carries n more body longer)
    (depth : Nat) : Settles more (inArray depth body) (inArray depth longer) := by
  unfold inArray
  split
  · exact settles_never fun _ _ _ => not_yields_failAhead _
  · exact .after (fun _ => carries_advance) fun _ => .closing h settles_closeArray

theorem settles_inObject {body longer : Decode α} (h : ∀ n, Carries n more body longer)
    (depth : Nat) : Settles more (inObject depth body) (inObject depth longer) := by
  unfold inObject
  split
  · exact settles_never fun _ _ _ => not_yields_failAhead _
  · exact .after (fun _ => carries_advance) fun _ => .closing h settles_closeObject

/-! ## Values of a wanted shape -/

/-- A step goes on with what is read or with a default. -/
theorem Carries.orDefault {p : Prop} [Decidable p] {step : Decode α} {default : α}
    {next later : α → Decode β} (h : Carries n more step step)
    (hn : ∀ a, Carries n more (next a) (later a)) :
    Carries n more (if p then step >>= next else Pure.pure default >>= next)
      (if p then step >>= later else Pure.pure default >>= later) := by
  split
  · exact h.bind hn
  · exact (carries_pure default).bind hn

theorem not_yields_mismatch {wanted : String} {c : Char} {cs rest : List Char} {a : α} :
    ¬Yields (mismatch wanted c) cs a rest := by
  intro read
  unfold mismatch at read
  split at read
  · exact not_yields_failOpen _ read
  split at read
  · exact not_yields_failOpen _ read
  · obtain ⟨v, mid, -, later⟩ := read.of_bind
    exact not_yields_failOpen _ later

variable {choose : Char → Option (Decode α)}

theorem carries_expecting (wanted : String)
    (h : ∀ c step, choose c = some step → ∀ n, Carries n more step step) :
    Carries n more (expecting wanted choose) (expecting wanted choose) := by
  unfold expecting
  refine .placed (.token (carries_failAhead _) fun c _ => ?_)
  dsimp only
  cases chosen : choose c with
  | none => exact carries_never fun _ _ _ => not_yields_mismatch
  | some step => exact h c step chosen n

theorem settles_expecting (wanted : String)
    (h : ∀ c step, choose c = some step → Settles more step step) :
    Settles more (expecting wanted choose) (expecting wanted choose) := by
  unfold expecting
  refine .placed (.after (fun _ => carries_peekToken) fun c => ?_)
  cases c with
  | none => exact settles_never fun _ _ _ => not_yields_failAhead _
  | some c =>
      dsimp only
      cases chosen : choose c with
      | none => exact settles_never fun _ _ _ => not_yields_mismatch
      | some step => exact h c step chosen

/-- A value may be given by an object or by a list. -/
theorem settles_objectOrList (wanted : String) (depth : Nat) {object list : Decode α}
    (ho : ∀ n, Carries n more object object) (hl : ∀ n, Carries n more list list) :
    let either : Decode α := expecting wanted fun c =>
      if c = '{' then some (inObject depth object)
      else if c = '[' then some (inArray depth list)
      else none
    Settles more either either := by
  refine settles_expecting wanted fun c step chosen => ?_
  split at chosen
  · cases chosen
    exact settles_inObject ho depth
  split at chosen
  · cases chosen
    exact settles_inArray hl depth
  · cases chosen

theorem carries_string (wanted : String) :
    Carries n more (Decode.string wanted) (Decode.string wanted) := by
  refine carries_expecting wanted fun c step chosen n => ?_
  split at chosen
  · cases chosen
    exact .advance carries_stringBody
  · cases chosen

theorem carries_bool : Carries n more Decode.bool Decode.bool := by
  refine carries_expecting _ fun c step chosen n => ?_
  split at chosen
  · cases chosen
    exact .advance ((carries_word _).bind fun _ => carries_pure _)
  split at chosen
  · cases chosen
    exact .advance ((carries_word _).bind fun _ => carries_pure _)
  · cases chosen

theorem carries_unit : Carries n more Decode.unit Decode.unit := by
  refine carries_expecting _ fun c step chosen n => ?_
  split at chosen
  · cases chosen
    exact .advance (carries_word _)
  · cases chosen

theorem carries_list {item : Nat → Decode α} (h : ∀ n d, Carries n more (item d) (item d))
    (depth : Nat) : Carries n more (Decode.list item depth) (Decode.list item depth) := by
  refine carries_expecting _ fun c step chosen n => ?_
  split at chosen
  · cases chosen
    exact (settles_inArray (fun n => carries_allItems fun n _ => h n _) _).carries
  · cases chosen

theorem settles_map {member : Nat → Decode α} (h : ∀ n d, Carries n more (member d) (member d))
    (depth : Nat) : Settles more (Decode.map member depth) (Decode.map member depth) := by
  refine settles_expecting _ fun c step chosen => ?_
  split at chosen
  · cases chosen
    exact settles_inObject (fun n => carries_allMembers fun n _ => h n _) _
  · cases chosen

theorem carries_oneOfNames (find : String → Option α) (known : List String) (wanted : String) :
    Carries n more (oneOfNames find known wanted) (oneOfNames find known wanted) := by
  unfold oneOfNames
  refine .placed ((carries_string wanted).bind fun name => ?_)
  split
  · exact carries_pure _
  · exact carries_failOpen _

end Json.Decode

open Json Json.Decode

variable {n : Nat} {more : List Char}

/-! ## Rules -/

theorem BaseType.carries_decode (depth : Nat) :
    Carries n more (BaseType.decode depth) (BaseType.decode depth) := by
  have name (n : Nat) : Carries n more BaseType.decodeName BaseType.decodeName :=
    carries_oneOfNames _ _ _
  unfold BaseType.decode
  refine .token (carries_failAhead _) fun c _ => ?_
  dsimp only
  split
  · exact name n
  split
  · split
    · exact carries_failAhead _
    refine .advance ((name _).bind fun base => carries_colon.bind fun _ =>
      (carries_unit.within _).bind fun _ => ?_)
    refine .token (carries_fail _) fun d _ => ?_
    dsimp only
    split
    · exact .advance (carries_pure base)
    · exact carries_fail _
  · exact carries_failAhead _

namespace Constraint

theorem carries_decodeMembers (depth : Nat) :
    Carries n more (decodeMembers depth) (decodeMembers depth) := by
  unfold decodeMembers
  refine (carries_allMembers fun n key => ?_).bind fun parts => ?_
  · split
    · exact (carries_oneOfNames _ _ _).map _
    · exact (carries_value depth).map _
  · split
    · exact carries_pure _
    · exact carries_failOpen _

theorem carries_decodeItems (depth : Nat) :
    Carries n more (decodeItems depth) (decodeItems depth) := by
  unfold decodeItems
  refine (carries_nextItem true).bind fun there => ?_
  split
  · refine ((carries_oneOfNames _ _ _).within _).bind fun k => .remaining fun left _ => ?_
    rw [Nat.add_right_comm]
    exact (carries_items (fun n _ => carries_value depth) Nat.one_ne_zero
      (Nat.le_succ left)).bind fun _ => carries_pure _
  · exact carries_failOpen _

theorem carries_decode (depth : Nat) :
    Carries n more (Constraint.decode depth) (Constraint.decode depth) := by
  have draft : Settles more (decodeDraft depth) (decodeDraft depth) :=
    settles_objectOrList _ _ (fun _ => carries_decodeMembers _) fun _ => carries_decodeItems _
  unfold Constraint.decode
  refine draft.carries.bind fun d => ?_
  dsimp only
  split
  · exact carries_pure _
  · exact carries_failOpen _

end Constraint

namespace FieldRule

theorem carries_decodePart (depth : Nat) (key : String) :
    Carries n more (decodePart depth key) (decodePart depth key) := by
  unfold decodePart
  split
  · exact (BaseType.carries_decode depth).map _
  split
  · exact carries_bool.map _
  split
  · exact carries_bool.map _
  split
  · exact (carries_list (fun _ => Constraint.carries_decode) depth).map _
  · exact carries_skipValue.bind fun _ => carries_pure _

theorem carries_decodeMembers (depth : Nat) :
    Carries n more (decodeMembers depth) (decodeMembers depth) := by
  unfold decodeMembers
  refine (carries_allMembers fun n key => carries_decodePart depth key).bind fun parts => ?_
  dsimp only
  split
  · exact carries_failOpen _
  · split
    · exact carries_failOpen _
    · exact carries_pure _

theorem carries_decodeItems (depth : Nat) :
    Carries n more (decodeItems depth) (decodeItems depth) := by
  unfold decodeItems
  refine (carries_nextItem true).bind fun _ => .perhaps (carries_failOpen _) ?_
  refine ((BaseType.carries_decode depth).within _).bind fun base => ?_
  refine (carries_nextItem false).bind fun _ => .perhaps (carries_failOpen _) ?_
  refine (carries_bool.within _).bind fun required => ?_
  refine (carries_nextItem false).bind fun _ =>
    .orDefault (carries_bool.within _) fun nullable => ?_
  have constraints :
      Carries n more (list Constraint.decode depth) (list Constraint.decode depth) :=
    carries_list (fun _ => Constraint.carries_decode) depth
  exact (carries_nextItem false).bind fun _ =>
    .orDefault (constraints.within _) fun _ => carries_pure _

theorem settles_decode (depth : Nat) :
    Settles more (FieldRule.decode depth) (FieldRule.decode depth) :=
  settles_objectOrList _ _ (fun _ => carries_decodeMembers _) fun _ => carries_decodeItems _

end FieldRule

theorem RuleSet.settles_decode (depth : Nat) :
    Settles more (RuleSet.decode depth) (RuleSet.decode depth) :=
  (settles_map (fun _ d => (FieldRule.settles_decode d).carries) depth).before_pure _

namespace Payload

theorem carries_decodePart (depth : Nat) (key : String) :
    Carries n more (decodePart depth key) (decodePart depth key) := by
  unfold decodePart
  split
  · exact (RuleSet.settles_decode depth).carries.map _
  split
  · exact (carries_string _).map _
  · exact carries_skipValue.bind fun _ => carries_pure _

theorem carries_textPart (parts : List (String × Part)) (key : String) :
    Carries n more (textPart parts key) (textPart parts key) := by
  unfold textPart
  split
  · exact carries_pure _
  · exact carries_failOpen _

theorem carries_decodeMembers (depth : Nat) :
    Carries n more (decodeMembers depth) (decodeMembers depth) := by
  unfold decodeMembers
  refine (carries_allMembers fun n key => carries_decodePart depth key).bind fun parts => ?_
  split
  · exact (carries_textPart parts _).bind fun _ => (carries_textPart parts _).bind fun _ =>
      (carries_textPart parts _).bind fun _ => carries_pure _
  · exact carries_failOpen _

theorem carries_decodeItem {α : Type} {item : Decode α} (h : ∀ n, Carries n more item item)
    (index : Nat) : Carries n more (decodeItem index item) (decodeItem index item) := by
  unfold decodeItem
  refine (carries_nextItem _).bind fun there => ?_
  split
  · exact (h n).within _
  · exact carries_failOpen _

theorem carries_decodeItems (depth : Nat) :
    Carries n more (decodeItems depth) (decodeItems depth) := by
  have text (n index : Nat) : Carries n more (decodeItem index (Decode.string "a string"))
      (decodeItem index (Decode.string "a string")) :=
    carries_decodeItem (fun _ => carries_string _) index
  exact (carries_decodeItem (fun _ => (RuleSet.settles_decode depth).carries) 0).bind fun _ =>
    (text n 1).bind fun _ => (text n 2).bind fun _ => (text n 3).bind fun _ => carries_pure _

theorem settles_decode (depth : Nat) :
    Settles more (Payload.decode depth) (Payload.decode depth) :=
  settles_objectOrList _ _ (fun _ => carries_decodeMembers _) fun _ => carries_decodeItems _

end Payload

/-- What a run gives it also gives with more text behind. -/
theorem Json.Decode.Settles.run {α : Type} {step : Decode α} (h : ∀ more, Settles more step step)
    {s : String} {a : α} (ok : step.run s.toList = .ok a) (more : String) :
    step.run (s ++ more).toList = .ok a := by
  obtain ⟨rest, read⟩ := exists_yields_of_run ok
  rw [String.toList_append]
  exact (h more.toList read).2.run

/-! ## Records -/

namespace Command

variable {w : Workspace} {lineByLine : Bool}

/-- The records of a file are what it starts with, or what each of its lines that is not blank
starts with. -/
def StartsWith (w : Workspace) (lineByLine : Bool) (file : String × List Json) : Prop :=
  ∃ text, readText w file.1 = .ok text ∧
    if lineByLine then
      List.Forall₂ (fun line record => ∃ rest, Json.Starts 127 line record rest)
        ((Text.lines text.toList).filter fun line => !Text.allBlank line) file.2
    else ∃ document rest, Json.Starts 127 text.toList document rest ∧ file.2 = recordsOf document

theorem loadRecords_eq_ok_iff {path : String} {records : List Json} :
    loadRecords w lineByLine path = .ok records ↔ StartsWith w lineByLine (path, records) := by
  cases lineByLine with
  | true =>
      rw [loadRecords_lines]
      simp only [StartsWith, if_true, Json.ofText_eq_ok_iff, String.toList_ofList]
      rfl
  | false =>
      rw [loadRecords_document]
      simp only [StartsWith, readDocument_eq_ok_iff, Json.ofText_eq_ok_iff]
      constructor
      · rintro ⟨v, ⟨text, read, rest, start⟩, rfl⟩
        exact ⟨text, read, v, rest, start, rfl⟩
      · rintro ⟨text, read, v, rest, start, rfl⟩
        exact ⟨v, ⟨text, read, rest, start⟩, rfl⟩

theorem run_check_ok {now : DateTime} {selection : Selection} {data : List String}
    {today : Option Date} {valid : Bool}
    (h : (run now w (.check selection data lineByLine today)).verdict = .ok valid) :
    ∃ (rules : RuleSet) (s : Schema) (files : List (String × List Json)),
      loadRules w selection = .ok rules ∧
      Schema.compile ((today.map DateTime.midnight).getD now) rules = .ok s ∧
      resolveAll w data = .ok (files.map Prod.fst) ∧
      (∀ file ∈ files, StartsWith w lineByLine file) ∧
      (run now w (.check selection data lineByLine today)).lines = files.flatMap (fileLines s) ∧
      valid = files.all fun file => file.2.all fun record => (s.validate record).ok := by
  cases loaded : loadRules w selection with
  | error failure => simp [run, Command.selection, loaded, Result.failed] at h
  | ok rules =>
  cases compiled : Schema.compile ((today.map DateTime.midnight).getD now) rules with
  | error e => simp [run, Command.selection, loaded, compiled, Result.failed] at h
  | ok s =>
  rw [run_check loaded compiled] at h ⊢
  cases resolved : resolveAll w data with
  | error failure => simp [checkAll, resolved, Result.failed] at h
  | ok paths =>
  rcases holds_or_failure w lineByLine paths with
    ⟨files, names, holds⟩ | ⟨files, path, after, failure, names, holds, fails⟩
  · obtain ⟨lines, verdict⟩ := checkAll_of_holds (s := s) resolved names holds
    refine ⟨rules, s, files, rfl, compiled, by rw [names], ?_, lines, ?_⟩
    · exact fun file among => loadRecords_eq_ok_iff.1 (holds file among)
    · exact Except.ok.inj (h.symm.trans verdict)
  · have verdict := (checkAll_of_failure (s := s) resolved names holds fails).2
    cases h.symm.trans verdict

/-- What is decoded is found at the start of a text, and what follows it is never looked at.  A text
decodes to a value just if it starts with a text of that value with at most 127 levels of arrays and
objects; anything may be left, as long as it does not carry on a number, and the text is that of one
value just if only white space is left.  Rule sets, raw ones too, and field rules and payloads are
decoded alike with any text behind them.  A check that does not fail judges of each file, or of each
line in it that is not blank, the value that it starts with; further values behind it are not
reported and do not count for the verdict. -/
theorem decoded_up_to_value (t : String) (now : DateTime) (w : Workspace) (selection : Selection)
    (data : List String) (lineByLine : Bool) (today : Option Date) :
    (∀ v, Json.ofText t = .ok v ↔ ∃ rest, Json.Starts 127 t.toList v rest) ∧
    (∀ v rest, Json.Starts 127 t.toList v rest → (Json.IsText 127 t.toList v ↔ Blank rest)) ∧
    (∀ rules, RuleSet.ofText t = .ok rules → ∀ more, RuleSet.ofText (t ++ more) = .ok rules) ∧
    (∀ raw, (Decode.map value Decode.depthLimit).run t.toList = .ok raw →
      ∀ more, (Decode.map value Decode.depthLimit).run (t ++ more).toList = .ok raw) ∧
    (∀ rule, FieldRule.ofText t = .ok rule → ∀ more, FieldRule.ofText (t ++ more) = .ok rule) ∧
    (∀ p, Payload.ofText t = .ok p → ∀ more, Payload.ofText (t ++ more) = .ok p) ∧
    let result := run now w (.check selection data lineByLine today)
    ∀ valid, result.verdict = .ok valid →
      ∃ (rules : RuleSet) (s : Schema) (files : List (String × List Json)),
        loadRules w selection = .ok rules ∧
        Schema.compile ((today.map DateTime.midnight).getD now) rules = .ok s ∧
        resolveAll w data = .ok (files.map Prod.fst) ∧
        (∀ file ∈ files, StartsWith w lineByLine file) ∧
        result.lines = files.flatMap (fileLines s) ∧
        valid = files.all fun file => file.2.all fun record => (s.validate record).ok := by
  refine ⟨fun v => Json.ofText_eq_ok_iff, fun v rest start => start.isText_iff, ?_, ?_, ?_, ?_,
    fun valid verdict => run_check_ok verdict⟩
  · exact fun rules h => Settles.run (fun _ => RuleSet.settles_decode _) h
  · exact fun raw h => Settles.run (fun _ => settles_map (fun _ => carries_value) _) h
  · exact fun rule h => Settles.run (fun _ => FieldRule.settles_decode _) h
  · exact fun p h => Settles.run (fun _ => Payload.settles_decode _) h

/-- The second guest on the line is null and has no name, but only the first one is checked. -/
theorem guest_with_follower :
    let rule : FieldRule :=
      { base := .string, required := true, nullable := false, constraints := [] }
    let rules : RuleSet := OrderedMap.empty.insert "name" rule
    let p : Payload := .new rules "store" "create"
    let document := Json.object [("name", .string "required")]
    let ann := Json.object [("name", .string "Ann")]
    let line := "\x7b\"name\":\"Ann\"\x7d null"
    let w : Workspace :=
      { files := [(["rules"], .text document.text), (["a"], .text line)], folders := [] }
    let result := run .epoch w (.check ⟨["rules"], none, none⟩ ["a"] true none)
    Json.ofText line = .ok ann ∧ ¬Json.IsText 127 line.toList ann ∧
    RuleSet.ofText (rules.toJson.text ++ "]") = .ok rules ∧
    (Decode.map value Decode.depthLimit).run (document.text ++ "\x7d").toList =
      .ok [("name", .string "required")] ∧
    FieldRule.ofText (rule.toJson.text ++ "x") = .ok rule ∧
    Payload.ofText (p.toJson.text ++ " null") = .ok p ∧
    result.verdict = .ok true ∧
    ∃ (rules : RuleSet) (s : Schema) (files : List (String × List Json)),
      loadRules w ⟨["rules"], none, none⟩ = .ok rules ∧
      Schema.compile .epoch rules = .ok s ∧ resolveAll w ["a"] = .ok (files.map Prod.fst) ∧
      (∀ file ∈ files, StartsWith w true file) ∧ result.lines = files.flatMap (fileLines s) ∧
      true = files.all fun file => file.2.all fun record => (s.validate record).ok := by
  intro rule rules p document ann line w result
  have each (t : String) :=
    decoded_up_to_value t .epoch w ⟨["rules"], none, none⟩ ["a"] true none
  have sentRules : RuleSet.ofText rules.toJson.text = .ok rules :=
    Medium.run_text (fun hw => rules.readsValue_decode hw (by decide) 0) .compact
  have sentRaw : (Decode.map value Decode.depthLimit).run document.text.toList =
      .ok [("name", .string "required")] := by
    refine Medium.run_text (fun {write} hw => ?_) .compact
    have member : ∀ e ∈ [("name", Json.string "required")],
        ReadsValue (value 127) (write 1 (id e.2)) e.2 := by
      intro e among
      obtain rfl := List.mem_singleton.1 among
      have plain : Json.Plain 0 (.string "required") := by simp [Json.Plain]
      exact readsValue_value hw plain (by decide)
    exact readsValue_map hw (by decide : 1 < 128) (by simp [Entries.keys]) member
  have sentRule : FieldRule.ofText rule.toJson.text = .ok rule :=
    Medium.run_text (fun hw => rule.readsValue_decode hw (by decide) 0) .compact
  have sentPayload : Payload.ofText p.toJson.text = .ok p :=
    Medium.run_text (fun hw => p.readsValue_decode hw (by decide) 0) .compact
  have start : Json.Starts 127 line.toList ann " null".toList := by
    have plain : Json.Plain (126 + 1) ann := by simp [ann, Json.Plain, Entries.keys]
    have written : line.toList = [] ++ (Json.compact ann ++ " null".toList) := by decide
    rw [written]
    exact (Json.layout_compact.valueText plain 0).starts blank_nil (by simp [ann]) _
  obtain ⟨decodes, whole, -⟩ := each line
  have decoded : Json.ofText line = .ok ann := (decodes ann).2 ⟨_, start⟩
  have notWhole : ¬Json.IsText 127 line.toList ann := by
    rw [whole _ _ start]
    exact fun blank => absurd (blank 'n' (by decide)) (by decide)
  have verdict : result.verdict = .ok true := by
    have plainRules : Json.Plain 1 document := by simp [document, Json.Plain, Entries.keys]
    have readRules : readDocument w "rules" = .ok document :=
      readDocument_eq_ok_iff.2 ⟨document.text, rfl, (Json.ofText_text plainRules (by decide)).1⟩
    have loaded : loadRules w ⟨["rules"], none, none⟩ = .ok (RuleSet.merge [document]) :=
      loadRules_of_readDocument rfl readRules
    have compiled := Schema.compile_of_hasNeighbours DateTime.hasNeighbours_epoch
      (RuleSet.merge [document])
    have single : (Text.lines line.toList).filter (fun line => !Text.allBlank line) =
        [line.toList] := by decide
    have holds : Holds w true [("a", [ann])] := by
      intro file among
      obtain rfl := List.mem_singleton.1 among
      have read : readText w "a" = .ok line := rfl
      refine loadRecords_lines.2 ⟨line, read, ?_⟩
      rw [single]
      exact .cons (by rw [String.ofList_toList]; exact decoded) .nil
    have resolved : resolveAll w ["a"] = .ok ["a"] := rfl
    let s := (RuleSet.merge [document]).schema .epoch
    have judged : result = checkAll w s ["a"] true := run_check loaded compiled
    have valid : (s.validate ann).ok = true := by decide
    rw [judged, (checkAll_of_holds resolved rfl holds).2]
    simp [valid]
  obtain ⟨-, -, ruleSet, -⟩ := each rules.toJson.text
  obtain ⟨-, -, -, raw, -⟩ := each document.text
  obtain ⟨-, -, -, -, fieldRule, -⟩ := each rule.toJson.text
  obtain ⟨-, -, -, -, -, payload, checked⟩ := each p.toJson.text
  exact ⟨decoded, notWhole, ruleSet _ sentRules _, raw _ sentRaw _, fieldRule _ sentRule _,
    payload _ sentPayload _, verdict, checked true verdict⟩

/-- A line holds one record although it is no text of one record. -/
theorem line_with_two_records :
    let w : Workspace := { files := [(["a"], .text "\x7b\x7d null")], folders := [] }
    loadRecords w true "a" = .ok [.object []] ∧
      ¬∃ record, Json.IsText 127 "\x7b\x7d null".toList record := by
  intro w
  have empty : Json.ValueText 127 ['{', '}'] (.object []) :=
    Json.NestedText.object (Parts.nil blank_nil)
  have start : Json.Starts 127 "\x7b\x7d null".toList (.object []) " null".toList :=
    empty.starts blank_nil (by simp) _
  have decoded : Json.ofText "\x7b\x7d null" = .ok (.object []) :=
    Json.ofText_eq_ok_iff.2 ⟨_, start⟩
  refine ⟨loadRecords_lines.2 ⟨"\x7b\x7d null", rfl, .cons decoded .nil⟩, ?_⟩
  rintro ⟨record, text⟩
  obtain ⟨rest, whole, blank⟩ := text.exists_starts
  obtain ⟨-, rfl⟩ := whole.unique start
  exact absurd (blank 'n' (by decide)) (by decide)

end Command

end FormRules
