import FormRules.Proofs.Scaling
import FormRules.Proofs.Validation
import FormRules.Rule.Normal

/-!
# Bounds on the sizes of files

A file is measured in units of 1024 bytes, and a bound compares rounded numbers.
A size that is a natural number in integer form is held to its bound, exactly below
two to the power of 53 and up to rounding from there on.  A size in any other form
is not read at all, so that every bound lets the file pass.
-/

namespace FormRules

/-! ## Units of 1024 bytes -/

namespace Binary64

variable {bytes : Nat} {n : Int}

theorem scaled_kilobytes (fits : Fits bytes) :
    ((ofNat bytes).divNat 1024).scaled * 1024 = (ofInt bytes).scaled :=
  scaled_divNat_pow (k := 10) fits (by decide)

theorem scaled_bytes (fits : Fits n) (fits' : Fits (1024 * n)) :
    (ofInt (1024 * n)).scaled = (ofInt n).scaled * 1024 := by
  rw [mul_comm] at fits' ⊢
  exact scaled_ofInt_mul_pow (k := 10) fits fits'

variable (size : Fits bytes) (bound : Fits n) (limit : Fits (1024 * n))
include size bound limit

/-- Sizes and bounds compare in units as they do in bytes, once they have been rounded. -/
theorem kilobytes_le_iff :
    (ofNat bytes).divNat 1024 ≤ ofInt n ↔ ofInt bytes ≤ ofInt (1024 * n) := by
  have left := scaled_kilobytes size
  have right := scaled_bytes bound limit
  rw [le_iff_scaled_le, le_iff_scaled_le]
  omega

theorem le_kilobytes_iff :
    ofInt n ≤ (ofNat bytes).divNat 1024 ↔ ofInt (1024 * n) ≤ ofInt bytes := by
  have left := scaled_kilobytes size
  have right := scaled_bytes bound limit
  rw [le_iff_scaled_le, le_iff_scaled_le]
  omega

theorem sameValue_kilobytes_iff :
    ((ofNat bytes).divNat 1024).sameValue (ofInt n) = true ↔
      (ofInt bytes).sameValue (ofInt (1024 * n)) = true := by
  have left := scaled_kilobytes size
  have right := scaled_bytes bound limit
  rw [sameValue_iff, sameValue_iff]
  omega

end Binary64

/-! ## Sizes of files -/

section

variable {members : List (String × Json)} {name : String} {size : Number}
  (named : Entries.get? "name" members = some (.string name))
  (sized : Entries.get? "size" members = some (.number size))
include named sized

/-- Only a size in the form of a natural number is read. -/
theorem BaseType.measure?_file : BaseType.file.measure? (.object members) =
    size.toNat?.map fun bytes => (Binary64.ofNat bytes).divNat 1024 := by
  have handle : (FileHandle.ofJson? (.object members)).bind FileHandle.kilobytes? =
      (size.toNat?).map fun bytes => (Binary64.ofNat bytes).divNat 1024 := by
    simp [FileHandle.ofJson?, Json.member?, named, sized, Json.asString?, Json.asNat?,
      FileHandle.kilobytes?]
  exact handle

/-- A file field holds a size that is a natural number in integer form to its bounds in bytes.  It
rejects no file that respects them, and accepts another one only if its size and the bound are
rounded to the same floating-point number, which needs both of them to be two to the power of 53 at
least and close to each other.  A size in another form, below zero or written with a point or an
exponent, is held to no bound.  The other constraints make their demands all the same. -/
theorem FieldRule.size_limits_up_to_rounding (now : DateTime) (n : Int64) :
    let limits (c : Constraint) (holds : Prop) : Prop :=
      ∀ (rule : FieldRule) before after record, rule.base = .file →
        rule.constraints = before ++ c :: after →
        (rule.Accepts now (.object members) record ↔
          holds ∧ { rule with constraints := before ++ after }.Accepts now (.object members) record)
    let limit : Int := 1024 * n.toInt
    (∀ bytes fits, size = .int bytes fits → 0 ≤ bytes →
      let alike : Prop := (Binary64.ofInt bytes).sameValue (Binary64.ofInt limit) = true
      limits (.max n) (bytes ≤ limit ∨ alike) ∧
        limits (.min n) (limit ≤ bytes ∨ alike) ∧
        limits (.size n) (bytes = limit ∨ alike) ∧
        (alike → bytes = limit ∨
          9007199254740992 ≤ bytes.natAbs ∧ 9007199254740992 ≤ limit.natAbs ∧
            9007199254740992 * (bytes - limit).natAbs ≤ bytes.natAbs + limit.natAbs)) ∧
    ((∀ bytes fits, size = .int bytes fits → bytes < 0) →
      limits (.max n) True ∧ limits (.min n) True ∧ limits (.size n) True) := by
  intro limits limit
  have limited {c : Constraint} {check : Check} {holds : Prop}
      (compiled : Check.of? now c = .ok (some check))
      (passes : ∀ record, check.complaint? .file (.object members) record = none ↔ holds) :
      limits c holds := by
    intro rule before after record file parts
    rw [accepts_iff_others parts compiled (by simp), file, passes]
  have measure := BaseType.measure?_file named sized
  constructor
  · intro bytes fits form natural alike
    obtain ⟨k, rfl⟩ := Int.eq_ofNat_of_zero_le natural
    have low := Int64.le_toInt n
    have high := Int64.toInt_lt n
    have size : Binary64.Fits k := Binary64.fits_of_le (by omega)
    have bound : Binary64.Fits n.toInt := Binary64.fits_of_le (by omega)
    have scaled : Binary64.Fits limit := Binary64.fits_of_le (by omega)
    have read : BaseType.file.measure? (.object members) =
        some ((Binary64.ofNat k).divNat 1024) := by
      rw [measure, form]
      simp [Number.toNat?]
    refine ⟨limited rfl fun record => ?_, limited rfl fun record => ?_,
      limited rfl fun record => ?_, size.close_of_sameValue scaled⟩
    · simp only [Check.complaint?, bounded_eq_none_iff, read, Option.some.injEq, forall_eq',
        decide_eq_true_iff, Binary64.kilobytes_le_iff size bound scaled]
      exact size.le_iff scaled
    · simp only [Check.complaint?, bounded_eq_none_iff, read, Option.some.injEq, forall_eq',
        decide_eq_true_iff, Binary64.le_kilobytes_iff size bound scaled]
      rw [scaled.le_iff size, Binary64.sameValue_comm]
    · simp only [Check.complaint?, bounded_eq_none_iff, read, Option.some.injEq, forall_eq',
        Binary64.sameValue_kilobytes_iff size bound scaled]
      have equal : (k : Int) = limit → alike := fun h => by simp [alike, h, Binary64.sameValue]
      exact ⟨.inr, fun h => h.elim equal id⟩
  · intro unread
    have unmeasured : BaseType.file.measure? (.object members) = none := by
      rw [measure, Option.map_eq_none_iff]
      cases size with
      | int bytes fits =>
          have negative := unread bytes fits rfl
          simp [Number.toNat?, negative.not_ge]
      | float x => rfl
    refine ⟨limited rfl fun record => ?_, limited rfl fun record => ?_,
      limited rfl fun record => ?_⟩ <;>
      simp [Check.complaint?, bounded_eq_none_iff, unmeasured]

end

/-- A file of two kilobytes is too large for one, a file whose size has an exponent is not held to
any bound, and beyond two to the power of 53 one byte more is rounded away. -/
theorem FieldRule.uploads_limited_up_to_rounding :
    let upload (size : Number) : Json := .object [("name", .string "a.zip"), ("size", .number size)]
    let rule (c : Constraint) : FieldRule := { base := .file, constraints := [.mimes ["zip"], c] }
    let small : Number := .int 2048 (by decide)
    let float : Number := .float (Binary64.ofNat 5000000000)
    let large : Number := .int 9007199254740993 (by decide)
    ¬(rule (.max 1)).Accepts .epoch (upload small) none ∧
    (rule (.max 1)).Accepts .epoch (upload float) none ∧
    (rule (.max 8796093022208)).Accepts .epoch (upload large) none := by
  intro upload rule small float large
  let members (size : Number) : List (String × Json) :=
    [("name", .string "a.zip"), ("size", .number size)]
  have named (size : Number) : Entries.get? "name" (members size) = some (.string "a.zip") := rfl
  have sized (size : Number) : Entries.get? "size" (members size) = some (.number size) := rfl
  obtain ⟨read, -⟩ := size_limits_up_to_rounding (named small) (sized small) .epoch 1
  obtain ⟨-, unread⟩ := size_limits_up_to_rounding (named float) (sized float) .epoch 1
  obtain ⟨near, -⟩ := size_limits_up_to_rounding (named large) (sized large) .epoch 8796093022208
  refine ⟨?_, ?_, ?_⟩
  · rw [(read 2048 (by decide) rfl (by decide)).1 (rule (.max 1)) [.mimes ["zip"]] [] none rfl rfl]
    rintro ⟨above | alike, -⟩
    · revert above
      decide
    · revert alike
      decide +kernel
  · exact ((unread (by simp [float])).1 (rule (.max 1)) [.mimes ["zip"]] [] none rfl rfl).2
      ⟨trivial, _, rfl, by decide⟩
  · exact ((near 9007199254740993 (by decide) rfl (by decide)).1 (rule (.max 8796093022208))
      [.mimes ["zip"]] [] none rfl rfl).2 ⟨.inr (by decide +kernel), _, rfl, by decide⟩

/-- A file of five billion bytes passes a limit of one kilobyte if its size has an exponent, and a
file of `2 ^ 53 + 1` bytes a limit of `2 ^ 53` in any form. -/
theorem FieldRule.file_beyond_limit_accepted :
    let upload (size : Number) : Json := .object [("name", .string "a.zip"), ("size", .number size)]
    let size : Binary64 := Binary64.ofNat 5000000000
    ((RuleSpec.pipe "file|max:1").normalize "upload").Accepts .epoch (upload (.float size)) none ∧
    size.scaled = 5000000000 * Binary64.unitsPerOne ∧
    ((RuleSpec.pipe "file|max:8796093022208").normalize "upload").Accepts .epoch
      (upload (.int 9007199254740993 (by decide))) none := by
  intro upload size
  have kilobyte : (RuleSpec.pipe "file|max:1").normalize "upload" =
      { base := .file, constraints := [.max 1] } := by decide
  have petabytes : (RuleSpec.pipe "file|max:8796093022208").normalize "upload" =
      { base := .file, constraints := [.max 8796093022208] } := by decide
  rw [kilobyte, petabytes]
  exact ⟨⟨_, rfl, by decide⟩, Binary64.scaled_ofInt_of_small (i := 5000000000) (by decide),
    ⟨_, rfl, by decide +kernel⟩⟩

end FormRules
