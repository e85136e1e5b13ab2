import FormRules.Command.Run
import FormRules.Proofs.Wire

/-!
# What a page receives

A document of rules is written once and read in another place.  Whichever of the
texts of a rule set or of a payload travels, what is read from it is what was
written, and so a form that is set up from it checks records as the form of the
original rules does.
-/

namespace FormRules

open Json Json.Decode

variable {write : Nat → Json → List Char}

/-! ## Payloads -/

namespace Payload

def parts (p : Payload) : List (String × Part) :=
  [("validationRules", .rules p.rules), ("typeScriptInterface", .text p.declaration),
    ("validationMethod", .text p.method), ("currentAction", .text p.action)]

theorem readsMember_text (hw : Layout write) (levels level : Nat) (key : String)
    (hk : key ∈ memberNames) (hne : key ≠ "validationRules") (s : String) :
    ReadsMember (decodePart levels) (key, write level (.string s)) (key, .text s) := by
  refine ⟨rfl, ?_⟩
  unfold decodePart
  rw [if_neg hne, if_pos (List.contains_iff_mem.mpr hk), hw.string]
  exact (readsValue_string "a string" s).map Part.text

theorem reads_parts (hw : Layout write) {levels : Nat} (hl : 5 < levels) (level : Nat)
    (p : Payload) :
    List.Forall₂ (ReadsMember (decodePart levels)) (memberTexts write level p.members) p.parts := by
  have hrules : ReadsMember (decodePart levels) ("validationRules", write level p.rules.toJson)
      ("validationRules", .rules p.rules) := by
    refine ⟨rfl, ?_⟩
    unfold decodePart
    rw [if_pos rfl]
    exact (p.rules.readsValue_decode hw hl level).map Part.rules
  have htext := readsMember_text hw levels level
  have hdeclaration := htext "typeScriptInterface" (by decide) (by decide) p.declaration
  have hmethod := htext "validationMethod" (by decide) (by decide) p.method
  have haction := htext "currentAction" (by decide) (by decide) p.action
  exact .cons hrules (.cons hdeclaration (.cons hmethod (.cons haction .nil)))

theorem readsValue_decode (hw : Layout write) {levels : Nat} (hl : 6 < levels) (level : Nat)
    (p : Payload) : ReadsValue (decode levels) (write level p.toJson) p := by
  have hn : (Entries.keys p.members).Nodup := by
    simp [members, Entries.keys]
  exact readsValue_members hw (if_pos rfl) (by omega) hn (p.reads_parts hw (by omega) (level + 1))
    rfl

end Payload

/-! ## Media -/

inductive Medium where
  | compact
  | file
  | screen (w : Workspace) (colour : Bool)

def Medium.text : Medium → Json → String
  | .compact, document => document.text
  | .file, document => document.prettyText
  | .screen w colour, document =>
    Command.linesText colour (Command.emit w none document.prettyText).lines

/-- What is shown is the indented text with a line break at its end. -/
theorem Medium.text_screen (w : Workspace) (colour : Bool) (document : Json) :
    (Medium.screen w colour).text document = document.prettyText ++ "\n" := by
  simp [Medium.text, Command.linesText, Command.emit, Command.Line.text]

/-- A document that is read back under every layout survives every medium. -/
theorem Medium.run_text {α : Type} {step : Decode α} {document : Json} {a : α}
    (h : ∀ {write : Nat → Json → List Char}, Layout write → ReadsValue step (write 0 document) a)
    (medium : Medium) : step.run (medium.text document).toList = .ok a := by
  have hcompact := (h layout_compact).run endsValue_nil
  have hindented := (h layout_indented).run endsValue_nil
  have hbreak : EndsValue ['\n'] := by
    simp [EndsValue, isSpace]
  have hshown := (h layout_indented).run hbreak
  rw [List.append_nil] at hcompact hindented
  cases medium with
  | compact =>
      rw [Medium.text, Json.text, String.toList_ofList]
      exact hcompact
  | file =>
      rw [Medium.text, Json.prettyText, String.toList_ofList]
      exact hindented
  | screen w colour =>
      rw [Medium.text_screen, String.toList_append, Json.prettyText, String.toList_ofList]
      exact hshown

/-- A rule set and a payload arrive as they were sent, and the received form checks every
record as a form of the original rules does. -/
theorem Payload.transfer_lossless (now : DateTime) (medium : Medium) (rules : RuleSet)
    (p : Payload) (data : Json) :
    RuleSet.ofText (medium.text (Command.rulesDocument rules none)) = .ok rules ∧
      Payload.ofText (medium.text p.toJson) = .ok p ∧
      (Payload.ofText (medium.text p.toJson)).map (fun received =>
          (received.form now).map fun form => form.validateAll data) =
        .ok ((Schema.compile now p.rules).map fun schema =>
          (Form.new schema).validateAll data) := by
  have hrules : RuleSet.ofText (medium.text (Command.rulesDocument rules none)) = .ok rules := by
    apply Medium.run_text
    intro write hw
    exact rules.readsValue_decode hw (by decide) 0
  have hpayload : Payload.ofText (medium.text p.toJson) = .ok p := by
    apply Medium.run_text
    intro write hw
    exact p.readsValue_decode hw (by decide) 0
  refine ⟨hrules, hpayload, ?_⟩
  rw [hpayload]
  simp only [Except.map, Payload.form]
  cases Schema.compile now p.rules with
  | error _ => rfl
  | ok schema => rfl

end FormRules
