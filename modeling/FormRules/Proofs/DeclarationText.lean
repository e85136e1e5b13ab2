import FormRules.Proofs.Conformance
import FormRules.Proofs.Json.Numerals
import FormRules.Proofs.Json.Scalars
import FormRules.Proofs.Pieces

/-!
# Texts of declarations

A declaration shows the names of its fields, which of them are required, and their
types, and nothing else of the rules.  A key is read off the front of its line
whether it is quoted or not, and no key breaks a line, so that different lists of
fields never have the same text.
-/

namespace FormRules

/-! ## Quoted texts -/

theorem Json.Decode.Reads.unique {α : Type} {step : Decode α} {cs rest rest' : List Char} {a b : α}
    (h : Reads step cs a rest) (h' : Reads step cs b rest') : a = b ∧ rest = rest' := by
  obtain ⟨q, left⟩ := h ⟨1, 0⟩
  obtain ⟨q', right⟩ := h' ⟨1, 0⟩
  rw [left] at right
  simp_all

namespace Quoted

variable {cs ds rest rest' : List Char}

/-- A quoted text ends where its closing quote is, whatever follows. -/
theorem encode_append_inj (h : encode cs ++ rest = encode ds ++ rest') :
    cs = ds ∧ rest = rest' := by
  have same : body cs ++ rest = body ds ++ rest' := (List.cons.inj h).2
  have left := Json.Decode.reads_stringBody (String.ofList cs) rest
  have right := Json.Decode.reads_stringBody (String.ofList ds) rest'
  rw [String.toList_ofList] at left right
  rw [same] at left
  obtain ⟨text, after⟩ := left.unique right
  exact ⟨String.ofList_inj.1 text, after⟩

theorem le_toNat_hexDigit (n : Nat) : 32 ≤ (hexDigit n).toNat := by
  have digits : ∀ k < 16, 32 ≤ (hexDigit k).toNat := by decide
  have below : hexDigit (n % 16) = hexDigit n := by simp [hexDigit]
  rw [← below]
  exact digits _ (Nat.mod_lt n (by decide))

theorem le_toNat_of_mem_escape (c : Char) : ∀ d ∈ escape c, 32 ≤ d.toNat := by
  have digit (n : Nat) : 32 ≤ (hexDigit n).toNat := le_toNat_hexDigit n
  unfold escape
  split_ifs with quote backslash feed carriage tab backspace page control
  · simp
  · simp
  · simp
  · simp
  · simp
  · simp
  · simp
  · simp [digit]
  · simpa using control

theorem le_toNat_of_mem_body (cs : List Char) : ∀ d ∈ body cs, 32 ≤ d.toNat := by
  induction cs with
  | nil => simp [body]
  | cons c cs ih => exact List.forall_mem_append.2 ⟨le_toNat_of_mem_escape c, ih⟩

theorem feed_not_mem_encode (cs : List Char) : '\n' ∉ encode cs := by
  intro h
  rcases List.mem_cons.1 h with quote | inside
  · exact absurd quote (by decide)
  · exact absurd (le_toNat_of_mem_body cs _ inside) (by decide)

end Quoted

/-! ## Joined texts -/

namespace Text

variable (sep : List Char) {ps : List (List Char)} (ne : ps ≠ []) (p : List Char)
include ne

theorem joinWith_cons_of_ne_nil : joinWith sep (p :: ps) = p ++ sep ++ joinWith sep ps := by
  cases ps with
  | nil => exact absurd rfl ne
  | cons q ps => rfl

theorem joinWith_concat : joinWith sep (ps ++ [p]) = joinWith sep ps ++ sep ++ p := by
  induction ps with
  | nil => exact absurd rfl ne
  | cons q ps ih =>
      by_cases last : ps = []
      · simp [last, joinWith]
      · have more : ps ++ [p] ≠ [] := List.append_ne_nil_of_left_ne_nil last _
        rw [List.cons_append, joinWith_cons_of_ne_nil sep more, ih last,
          joinWith_cons_of_ne_nil sep last]
        simp only [List.append_assoc]

end Text

namespace Declaration

/-! ## Keys -/

variable {cs ds rest rest' : List Char}

theorem mem_of_isIdentifier (bare : isIdentifier cs = true) : ∀ c ∈ cs, inIdentifier c = true := by
  cases cs with
  | nil => simp
  | cons c cs =>
      have parts : startsIdentifier c = true ∧ ∀ d ∈ cs, inIdentifier d = true := by
        simpa [isIdentifier] using bare
      simp only [List.forall_mem_cons]
      exact ⟨by simp [inIdentifier, parts.1], parts.2⟩

/-- No identifier starts with the quote of the other keys. -/
theorem encode_append_ne (bare : isIdentifier cs = true) :
    cs ++ rest ≠ Quoted.encode ds ++ rest' := by
  intro h
  cases cs with
  | nil => cases bare
  | cons c cs =>
      have quote : c = '"' := (List.cons.inj h).1
      subst quote
      cases bare

/-- What follows a key tells where it ends: a mark or a colon belongs to no identifier. -/
theorem key_append_inj (ends : ∀ c ∈ rest.head?, inIdentifier c = false)
    (ends' : ∀ c ∈ rest'.head?, inIdentifier c = false) (h : key cs ++ rest = key ds ++ rest') :
    cs = ds := by
  unfold key at h
  split at h <;> split at h
  · rename_i bare bare'
    have left := Json.Decode.takeWhile_append_of_all (mem_of_isIdentifier bare) ends
    have right := Json.Decode.takeWhile_append_of_all (mem_of_isIdentifier bare') ends'
    rw [h] at left
    exact left.1.symm.trans right.1
  · rename_i bare quoted
    exact absurd h (encode_append_ne bare)
  · rename_i quoted bare
    exact absurd h.symm (encode_append_ne bare)
  · exact (Quoted.encode_append_inj h).1

theorem feed_not_mem_key (cs : List Char) : '\n' ∉ key cs := by
  unfold key
  split
  · rename_i bare
    intro h
    exact absurd (mem_of_isIdentifier bare _ h) (by decide)
  · exact Quoted.feed_not_mem_encode cs

/-! ## Properties -/

theorem typeName_injective {base base' : BaseType} (h : typeName base = typeName base') :
    base = base' := by
  cases base <;> cases base' <;> first | rfl | exact absurd h (by decide)

/-- The line of a field shows its name, whether it is required, and its type. -/
theorem property_eq_iff {field field' : String} {rule rule' : FieldRule} :
    property field rule = property field' rule' ↔
      field = field' ∧ rule.required = rule'.required ∧ rule.base = rule'.base := by
  constructor
  · intro h
    have names : field.toList = field'.toList := by
      simp only [property, List.append_assoc] at h
      have ends (r : FieldRule) : ∀ c ∈ ((if r.required then [] else ['?']) ++
          ([':', ' '] ++ ((typeName r.base).toList ++ [';']))).head?, inIdentifier c = false := by
        cases r.required <;> simp <;> decide
      exact key_append_inj (ends rule) (ends rule') (List.append_cancel_left h)
    obtain rfl : field = field' := String.toList_inj.1 names
    rw [← Property.line_ofRule, ← Property.line_ofRule, Property.line_eq_iff] at h
    obtain ⟨optional, type⟩ := Property.mk.inj h
    exact ⟨rfl, Bool.not_inj optional, typeName_injective type⟩
  · rintro ⟨rfl, required, base⟩
    simp only [property, required, base]

theorem feed_not_mem_property (field : String) (rule : FieldRule) :
    '\n' ∉ property field rule := by
  have key := feed_not_mem_key field.toList
  have type : '\n' ∉ (typeName rule.base).toList := by cases rule.base <;> decide
  cases h : rule.required <;> simp [property, h, key, type]

/-! ## Texts -/

/-- What a declaration shows of a rule set: the names of the fields in their order, which of them
are required, and their types. -/
def outline (rules : RuleSet) : List (String × Bool × BaseType) :=
  rules.entries.map fun e => (e.1, e.2.required, e.2.base)

def inner (rules : RuleSet) : List (List Char) :=
  rules.entries.map (fun e => property e.1 e.2) ++ [['}']]

theorem chars_eq (name : String) (rules : RuleSet) : chars name rules =
    "export interface ".toList ++ name.toList ++ [' ', '{'] ++
      '\n' :: Text.joinWith ['\n'] (inner rules) := by
  have filled : inner rules ≠ [] :=
    List.append_ne_nil_of_right_ne_nil _ (List.cons_ne_nil _ _)
  exact (Text.joinWith_cons_of_ne_nil _ filled _).trans (List.append_assoc _ _ _)

theorem pieces_inner (rules : RuleSet) :
    Text.pieces '\n' (Text.joinWith ['\n'] (inner rules)) = inner rules := by
  have single : ∀ l ∈ inner rules, Text.pieces '\n' l = [l] := by
    intro l member
    apply Text.pieces_of_not_mem
    rcases List.mem_append.1 member with line | last
    · obtain ⟨e, -, rfl⟩ := List.mem_map.1 line
      exact feed_not_mem_property e.1 e.2
    · rw [List.mem_singleton.1 last]
      decide
  rw [Text.pieces_joinWith '\n' (by simp [inner]), List.flatMap_congr single,
    List.flatMap_singleton']

theorem inner_eq_iff {rules rules' : RuleSet} :
    inner rules = inner rules' ↔ outline rules = outline rules' := by
  let shown (p : String × Bool × BaseType) : List Char :=
    property p.1 { base := p.2.2, required := p.2.1 }
  have inner_eq (rules : RuleSet) : inner rules = (outline rules).map shown ++ [['}']] := by
    simp only [inner, outline, List.map_map]
    rfl
  have injective : Function.Injective shown := by
    intro p q h
    obtain ⟨name, required, base⟩ := property_eq_iff.1 h
    exact Prod.ext name (Prod.ext required base)
  rw [inner_eq, inner_eq, List.append_left_inj]
  exact (List.map_injective_iff.2 injective).eq_iff

theorem chars_eq_iff {name : String} {rules rules' : RuleSet} :
    chars name rules = chars name rules' ↔ outline rules = outline rules' := by
  rw [← inner_eq_iff, chars_eq, chars_eq]
  constructor
  · intro h
    have rest := (List.cons.inj (List.append_cancel_left h)).2
    rw [← pieces_inner rules, rest, pieces_inner]
  · intro h
    rw [h]

theorem text_eq_iff {name : String} {rules rules' : RuleSet} :
    text name rules = text name rules' ↔ outline rules = outline rules' := by
  rw [text, text, String.ofList_inj, chars_eq_iff]

theorem piecesOf_text {name : String} (single : '\n' ∉ name.toList) (rules : RuleSet) :
    Text.piecesOf '\n' (text name rules) =
      ("export interface " ++ name ++ " \x7b") ::
        rules.entries.map (fun e => String.ofList (property e.1 e.2)) ++ ["\x7d"] := by
  have header : '\n' ∉ "export interface ".toList ++ name.toList ++ [' ', '{'] := by
    simp [single]
  unfold Text.piecesOf text
  rw [String.toList_ofList, chars_eq, Text.pieces_append, Text.pieces_of_not_mem header,
    pieces_inner]
  simp [inner, ← String.toList_inj]

/-! ## Several declarations -/

theorem appendTo_joinWith (written : List (String × RuleSet)) (d : String × RuleSet) :
    appendTo (Text.joinWith ['\n', '\n'] (written.map fun d => chars d.1 d.2)) d.1 d.2 =
      Text.joinWith ['\n', '\n'] ((written ++ [d]).map fun d => chars d.1 d.2) := by
  unfold appendTo
  cases written with
  | nil => rfl
  | cons first rest =>
      have filled : (Text.joinWith ['\n', '\n']
          ((first :: rest).map fun d => chars d.1 d.2)).isEmpty = false := by
        cases rest <;> simp [Text.joinWith, chars_eq]
      rw [filled, List.map_append, List.map_singleton, Text.joinWith_concat _ (by simp)]
      rfl

/-- Declarations put behind those before them. -/
theorem foldl_appendTo (written declarations : List (String × RuleSet)) :
    declarations.foldl (fun written d => appendTo written d.1 d.2)
        (Text.joinWith ['\n', '\n'] (written.map fun d => chars d.1 d.2)) =
      Text.joinWith ['\n', '\n'] ((written ++ declarations).map fun d => chars d.1 d.2) := by
  induction declarations generalizing written with
  | nil => rw [List.append_nil, List.foldl_nil]
  | cons d rest ih => rw [List.foldl_cons, appendTo_joinWith, ih, List.append_assoc,
      List.singleton_append]

theorem blocks_eq (declarations : List (String × RuleSet)) :
    blocks declarations = Text.joinTexts "\n\n" (declarations.map fun d => text d.1 d.2) := by
  have whole := congrArg String.ofList (foldl_appendTo [] declarations)
  unfold blocks Text.joinTexts
  rw [List.map_map]
  simpa [text, Function.comp_def, Text.joinWith] using whole

/-- Two rule sets have the same declaration if and only if they have the same fields in the same
order, the same ones required, with the same types; nothing else of their rules shows.  Unless the
name breaks it, the text has one line a field between its first line and its last, whatever the
fields are called.  Several declarations are their texts with an empty line between each two. -/
theorem text_unambiguous (name : String) (rules : RuleSet) :
    (∀ rules', text name rules = text name rules' ↔ outline rules = outline rules') ∧
    ('\n' ∉ name.toList → Text.piecesOf '\n' (text name rules) =
      ("export interface " ++ name ++ " \x7b") ::
        rules.entries.map (fun e => String.ofList (property e.1 e.2)) ++ ["\x7d"]) ∧
    ∀ declarations, blocks declarations =
      Text.joinTexts "\n\n" (declarations.map fun d => text d.1 d.2) :=
  ⟨fun _ => text_eq_iff, fun single => piecesOf_text single rules, blocks_eq⟩

/-- Names that hold a line break, quotes, and what stands behind a key. -/
theorem odd_names_unambiguous :
    let rules : RuleSet := OrderedMap.ofList
      [("a\n\x7d", { base := .file }), ("a\"?: string", { required := true }),
        ("a", { base := .date })]
    '\n' ∉ "Odd".toList ∧
    Text.piecesOf '\n' (text "Odd" rules) =
      ["export interface Odd \x7b", "  \"a\\n\x7d\"?: File;", "  \"a\\\"?: string\": string;",
        "  a?: Date | string;", "\x7d"] := by
  intro rules
  have single : '\n' ∉ "Odd".toList := by decide
  exact ⟨single, ((text_unambiguous "Odd" rules).2.1 single).trans (by decide)⟩

end Declaration

end FormRules
