import FormRules.Proofs.ClockKeywords
import FormRules.Proofs.DateOrder

/-!
# Spellings of a date

A moment has many texts: with a letter or a blank before the time of day, with or
without an offset from universal time, with the local time at any offset, without
seconds or without a time if these are zero.  All of them are read as the same
date, although five formats are tried one after the other, and so no comparison
of dates depends on how a date is written.
-/

namespace FormRules

open Text

/-! ## Moving by an offset -/

namespace DateTime

theorem addSeconds?_eq_some_iff {t u : DateTime} {delta : Int} : t.addSeconds? delta = some u ↔
    u.nanos = t.nanos ∧
      u.date.days * 86400 + u.seconds = t.date.days * 86400 + t.seconds + delta := by
  have range := u.date.inRange
  have inDay := u.seconds_lt
  have nanos := t.nanos_lt
  unfold addSeconds? Date.ofDays? of?
  simp only
  constructor
  · intro moved
    obtain ⟨d, date, time⟩ := Option.bind_eq_some_iff.1 moved
    split at date
    · cases date
      split at time
      · cases time
        refine ⟨rfl, ?_⟩
        change (t.date.days + (t.seconds + delta) / 86400) * 86400 +
          (((t.seconds + delta) % 86400).toNat : Int) = _
        omega
      · cases time
    · cases date
  · rintro ⟨same, line⟩
    have day : t.date.days + (t.seconds + delta) / 86400 = u.date.days := by omega
    have time : (((t.seconds : Int) + delta) % 86400).toNat = u.seconds := by omega
    rw [day, time, dif_pos range, Option.bind_some, dif_pos ⟨inDay, nanos⟩]
    obtain ⟨⟨days, inRange⟩, seconds, n, _, _⟩ := u
    simp_all

theorem addSeconds?_neg {t u : DateTime} {delta : Int} (moved : t.addSeconds? delta = some u) :
    u.addSeconds? (-delta) = some t := by
  rw [addSeconds?_eq_some_iff] at moved ⊢
  omega

end DateTime

namespace Calendar

/-! ## Times of day -/

def minutesText (seconds : Nat) : List Char :=
  Decimal.padded 2 (seconds / 3600) ++ ':' :: Decimal.padded 2 (seconds / 60 % 60)

def secondsText (seconds : Nat) : List Char :=
  minutesText seconds ++ ':' :: Decimal.padded 2 (seconds % 60)

def offsetText (sign : Char) (minutes : Nat) : List Char :=
  sign :: minutesText (minutes * 60)

variable {t : DateTime} {d : Date} {rest : List Char} {n : Nat}

theorem minutesText_append (rest : List Char) : minutesText n ++ rest =
    Decimal.padded 2 (n / 3600) ++ ':' :: (Decimal.padded 2 (n / 60 % 60) ++ rest) := by
  simp [minutesText]

theorem minutesText_eq (n : Nat) : minutesText n =
    Decimal.padded 2 (n / 3600) ++ ':' :: (Decimal.padded 2 (n / 60 % 60) ++ []) := by
  rw [List.append_nil]
  rfl

theorem secondsText_append (rest : List Char) : secondsText n ++ rest =
    minutesText n ++ ':' :: (Decimal.padded 2 (n % 60) ++ rest) := by
  simp [secondsText]

theorem assemble_eq (whole : t.nanos = 0) :
    assemble t.date (t.seconds / 3600) (t.seconds / 60 % 60) (t.seconds % 60) 0 = some t := by
  have inDay := t.seconds_lt
  have noLeap : t.seconds % 60 ≠ 60 := by omega
  have sum : t.seconds / 3600 * 3600 + t.seconds / 60 % 60 * 60 + t.seconds % 60 = t.seconds := by
    omega
  simp only [assemble, noLeap, if_false, sum, DateTime.of?]
  rw [dif_pos (by omega)]
  obtain ⟨date, seconds, nanos, _, _⟩ := t
  simp_all

/-! ### Numbers of a time -/

theorem hours_bounded (inDay : n < 86400) (rest : List Char) :
    bounded 0 23 (digits 2 2) (Decimal.padded 2 (n / 3600) ++ rest) = some (n / 3600, rest) :=
  bounded_padded (by decide) (by omega) (by omega)

theorem minutes_bounded (n : Nat) (rest : List Char) :
    bounded 0 59 (digits 2 2) (Decimal.padded 2 (n / 60 % 60) ++ rest) =
      some (n / 60 % 60, rest) :=
  bounded_padded (by decide) (by omega) (by omega)

theorem seconds_bounded (n : Nat) (rest : List Char) :
    bounded 0 60 (digits 2 2) (Decimal.padded 2 (n % 60) ++ rest) = some (n % 60, rest) :=
  bounded_padded (by decide) (by omega) (by omega)

theorem hours_number (inDay : n < 86400) (rest : List Char) :
    number 0 23 (Decimal.padded 2 (n / 3600) ++ rest) = some (n / 3600, rest) :=
  number_padded (by omega) (by omega)

theorem minutes_number (n : Nat) (rest : List Char) :
    number 0 59 (Decimal.padded 2 (n / 60 % 60) ++ rest) = some (n / 60 % 60, rest) :=
  number_padded (by omega) (by omega)

theorem seconds_number (n : Nat) (rest : List Char) :
    number 0 60 (Decimal.padded 2 (n % 60) ++ rest) = some (n % 60, rest) :=
  number_padded (by omega) (by omega)

/-! ## The internet format -/

/-- The part of the internet format behind the date. -/
def clock? (d : Date) (cs : List Char) : Option DateTime := do
  let cs ← match cs with
    | c :: rest => if c = 'T' || c = 't' || c = ' ' then some rest else none
    | [] => none
  let (hour, cs) ← bounded 0 23 (digits 2 2) cs
  let cs ← char ':' cs
  let (minute, cs) ← bounded 0 59 (digits 2 2) cs
  let cs ← char ':' cs
  let (second, cs) ← bounded 0 60 (digits 2 2) cs
  let (nanos, cs) ← fraction cs
  let (offset, cs) ← offset cs
  if cs.isEmpty then
    let date ← Date.ofCivil? d.civil.year.toNat d.civil.month d.civil.day
    let local_ ← assemble date hour minute second nanos
    local_.addSeconds? (-offset)
  else none

theorem internet?_append (four : d.FourDigits) (rest : List Char) :
    internet? (d.text ++ rest) = clock? d rest := by
  obtain ⟨first, last⟩ := four
  obtain ⟨month_pos, month_le, day_pos, day_le⟩ := d.civil_ranges
  have year (rest : List Char) : digits 4 4 (Decimal.padded 4 d.civil.year.toNat ++ rest) =
      some (d.civil.year.toNat, rest) := by
    have fits : d.civil.year.toNat < 10000 := by omega
    exact digits_padded (by decide) fits
  have month (rest : List Char) :
      bounded 1 12 (digits 2 2) (Decimal.padded 2 d.civil.month ++ rest) =
        some (d.civil.month, rest) :=
    bounded_padded (by decide) ⟨month_pos, month_le⟩ (by omega)
  have day (rest : List Char) : bounded 1 31 (digits 2 2) (Decimal.padded 2 d.civil.day ++ rest) =
      some (d.civil.day, rest) :=
    bounded_padded (by decide) ⟨day_pos, day_le⟩ (by omega)
  rw [text_append ⟨first, last⟩, internet?, year]
  change (bounded 1 12 (digits 2 2) _).bind _ = _
  rw [month]
  change (bounded 1 31 (digits 2 2) _).bind _ = _
  rw [day]
  rfl

/-- Behind a time of day the internet format reads the offset. -/
theorem clock?_seconds {separator : Char} (separates : separator = 'T' ∨ separator = ' ')
    (four : t.date.FourDigits) (whole : t.nanos = 0) (point : rest.head? ≠ some '.') :
    clock? t.date (separator :: (secondsText t.seconds ++ rest)) =
      (offset rest).bind fun p => if p.2.isEmpty then t.addSeconds? (-p.1) else none := by
  have civil : Date.ofCivil? (t.date.civil.year.toNat : Int) t.date.civil.month t.date.civil.day =
      some t.date := by
    rw [Int.toNat_of_nonneg four.1]
    exact t.date.ofCivil?_civil
  have noFraction : fraction rest = some (0, rest) := by
    unfold fraction
    split
    · next more => simp at point
    · rfl
  have written := assemble_eq whole
  rcases separates with rfl | rfl
  all_goals
    change (bounded 0 23 (digits 2 2) _).bind _ = _
    rw [secondsText_append, minutesText_append, hours_bounded t.seconds_lt]
    change (bounded 0 59 (digits 2 2) _).bind _ = _
    rw [minutes_bounded]
    change (bounded 0 60 (digits 2 2) _).bind _ = _
    rw [seconds_bounded]
    change (fraction rest).bind _ = _
    rw [noFraction]
    change (offset rest).bind _ = _
    congr 1
    funext p
    simp only [civil, Option.bind_eq_bind, Option.bind_some, written]

theorem clock?_without_offset {separator : Char} (separates : separator = 'T' ∨ separator = ' ')
    (four : t.date.FourDigits) (whole : t.nanos = 0) :
    clock? t.date (separator :: secondsText t.seconds) = none := by
  have ended : ([] : List Char).head? ≠ some '.' := by simp
  have read := clock?_seconds separates four whole ended
  rwa [List.append_nil] at read

/-- Without seconds a time of day is not of the internet format. -/
theorem clock?_minutes {separator : Char} (separates : separator = 'T' ∨ separator = ' ')
    (inDay : n < 86400) : clock? d (separator :: minutesText n) = none := by
  rcases separates with rfl | rfl
  all_goals
    change (bounded 0 23 (digits 2 2) _).bind _ = _
    rw [minutesText_eq, hours_bounded inDay]
    change (bounded 0 59 (digits 2 2) _).bind _ = _
    rw [minutes_bounded]
    rfl

theorem offset_offsetText {sign : Char} (minutes : Nat) (short : minutes < 1440)
    (signed : sign = '+' ∨ sign = '-') : offset (offsetText sign minutes) =
      some (if sign = '-' then -(minutes * 60 : Int) else minutes * 60, []) := by
  have sum : minutes * 60 / 3600 * 3600 + minutes * 60 / 60 % 60 * 60 = minutes * 60 := by omega
  have read (factor : Int) : offset.signed factor (minutesText (minutes * 60)) =
      some (factor * (minutes * 60 : Nat), []) := by
    rw [minutesText_eq, offset.signed, hours_bounded (by omega)]
    change (bounded 0 59 (digits 2 2) _).bind _ = _
    rw [minutes_bounded]
    change some (factor * ((minutes * 60 / 3600 * 3600 + minutes * 60 / 60 % 60 * 60 : Nat) : Int), _) = _
    rw [sum]
  rcases signed with rfl | rfl
  · refine (read 1).trans ?_
    simp
  · refine (read (-1)).trans ?_
    simp

/-! ## Layouts -/

theorem trimStart_minutesText (n : Nat) (rest : List Char) :
    trimStart (' ' :: (minutesText n ++ rest)) = minutesText n ++ rest := by
  rw [minutesText_append]
  exact trimStart_padded 2 (n / 3600) _

theorem layout?_seconds {separator : Separator} {c : Char}
    (separates : separator.read (c :: secondsText t.seconds) = some (secondsText t.seconds))
    (four : t.date.FourDigits) (whole : t.nanos = 0) :
    layout? separator true false (t.date.text ++ c :: secondsText t.seconds) = some t := by
  have text : secondsText t.seconds = Decimal.padded 2 (t.seconds / 3600) ++
      ':' :: (Decimal.padded 2 (t.seconds / 60 % 60) ++
        ':' :: (Decimal.padded 2 (t.seconds % 60) ++ [])) := by
    simp [secondsText, minutesText]
  rw [layout?, dateFront_text four]
  change (separator.read _).bind _ = _
  rw [separates, text]
  change (number 0 23 _).bind _ = _
  rw [hours_number t.seconds_lt]
  change (number 0 59 _).bind _ = _
  rw [minutes_number]
  change (number 0 60 _).bind _ = _
  rw [seconds_number]
  exact assemble_eq whole

theorem layout?_minutes (four : t.date.FourDigits) (whole : t.nanos = 0)
    (sharp : t.seconds % 60 = 0) :
    layout? .blanks false false (t.date.text ++ ' ' :: minutesText t.seconds) = some t := by
  have text := trimStart_minutesText t.seconds []
  rw [List.append_nil] at text
  rw [layout?, dateFront_text four]
  change (number 0 23 (trimStart _)).bind _ = _
  rw [text, minutesText_eq, hours_number t.seconds_lt]
  change (number 0 59 _).bind _ = _
  rw [minutes_number]
  have written := assemble_eq whole
  rwa [sharp] at written

/-! ### Formats that do not apply -/

theorem blanks_letter (four : d.FourDigits) (rest : List Char) :
    layout? .blanks true false (d.text ++ 'T' :: rest) = none := by
  rw [layout?, dateFront_text four]
  rfl

theorem letter_blanks (four : d.FourDigits) (rest : List Char) :
    layout? .letter true false (d.text ++ ' ' :: rest) = none := by
  rw [layout?, dateFront_text four]
  rfl

theorem blanks_minutes (four : d.FourDigits) (inDay : n < 86400) :
    layout? .blanks true false (d.text ++ ' ' :: minutesText n) = none := by
  have text := trimStart_minutesText n []
  rw [List.append_nil] at text
  rw [layout?, dateFront_text four]
  change (number 0 23 (trimStart _)).bind _ = _
  rw [text, minutesText_eq, hours_number inDay]
  change (number 0 59 _).bind _ = _
  rw [minutes_number]
  rfl

/-! ## Spellings -/

/-- The texts of a moment, without blanks around them: its date and time of day, with a letter or a
blank between them; the same in universal time; the date and time at some offset from it, with the
offset; without the seconds or without a time, if these are zero. -/
inductive Spells (t : DateTime) : List Char → Prop where
  | letter : Spells t (t.date.text ++ 'T' :: secondsText t.seconds)
  | blank : Spells t (t.date.text ++ ' ' :: secondsText t.seconds)
  | universal {separator : Char} (separates : separator = 'T' ∨ separator = ' ') :
    Spells t (t.date.text ++ separator :: (secondsText t.seconds ++ ['Z']))
  | offset {u : DateTime} {separator sign : Char} {minutes : Nat}
    (separates : separator = 'T' ∨ separator = ' ') (signed : sign = '+' ∨ sign = '-')
    (short : minutes < 1440) (four : u.date.FourDigits)
    (moved : t.addSeconds? (if sign = '-' then -(minutes * 60 : Int) else minutes * 60) = some u) :
    Spells t (u.date.text ++ separator :: (secondsText u.seconds ++ offsetText sign minutes))
  | minutes (sharp : t.seconds % 60 = 0) : Spells t (t.date.text ++ ' ' :: minutesText t.seconds)
  | day (midnight : t.seconds = 0) : Spells t t.date.text

/-- A text spells a moment of whole seconds between the years 0 and 9999, with blanks around it. -/
structure SpelledAs (t : DateTime) (s : String) : Prop where
  whole : t.nanos = 0
  four : t.date.FourDigits
  padded : ∃ before cs after, allBlank before = true ∧ allBlank after = true ∧ Spells t cs ∧
    s = String.ofList (before ++ (cs ++ after))

theorem isBlank_of_mem_minutesText {c : Char} (mem : c ∈ minutesText n) : isBlank c = false := by
  simp only [minutesText, List.mem_append, List.mem_cons] at mem
  rcases mem with digit | rfl | digit
  · exact isBlank_of_isAsciiDigit (Decimal.isAsciiDigit_of_mem_padded digit)
  · rfl
  · exact isBlank_of_isAsciiDigit (Decimal.isAsciiDigit_of_mem_padded digit)

theorem isBlank_of_mem_secondsText {c : Char} (mem : c ∈ secondsText n) : isBlank c = false := by
  simp only [secondsText, List.mem_append, List.mem_cons] at mem
  rcases mem with earlier | rfl | digit
  · exact isBlank_of_mem_minutesText earlier
  · rfl
  · exact isBlank_of_isAsciiDigit (Decimal.isAsciiDigit_of_mem_padded digit)

theorem isTrimmed_append (four : d.FourDigits) {separator : Char} {cs : List Char} (ne : cs ≠ [])
    (plain : ∀ c ∈ cs, isBlank c = false) : IsTrimmed (d.text ++ separator :: cs) := by
  constructor
  · obtain ⟨c, rest, front, digit⟩ := text_eq_cons four
    rw [front]
    exact isBlank_of_isAsciiDigit digit
  · have last : (d.text ++ separator :: cs).getLast? = cs.getLast? := by
      rw [List.getLast?_append_cons, List.getLast?_cons_of_ne_nil ne]
    rw [last]
    exact (isTrimmed_of_no_blank plain).2

theorem minutesText_ne_nil (n : Nat) : minutesText n ≠ [] := by
  simp [minutesText]

theorem secondsText_ne_nil (n : Nat) : secondsText n ≠ [] := by
  simp [secondsText]

theorem Spells.isTrimmed {cs : List Char} (spells : Spells t cs) (four : t.date.FourDigits) :
    IsTrimmed cs := by
  cases spells with
  | letter | blank =>
      exact isTrimmed_append four (secondsText_ne_nil _) fun c => isBlank_of_mem_secondsText
  | minutes =>
      exact isTrimmed_append four (minutesText_ne_nil _) fun c => isBlank_of_mem_minutesText
  | day => exact isTrimmed_text four
  | universal =>
      refine isTrimmed_append four (by simp) fun c mem => ?_
      rcases List.mem_append.1 mem with time | letter
      · exact isBlank_of_mem_secondsText time
      · rw [List.mem_singleton.1 letter]
        rfl
  | offset separates signed short local_ moved =>
      refine isTrimmed_append local_ (by simp [offsetText]) fun c mem => ?_
      rcases List.mem_append.1 mem with time | mem
      · exact isBlank_of_mem_secondsText time
      · rcases List.mem_cons.1 mem with rfl | shift
        · rcases signed with rfl | rfl <;> rfl
        · exact isBlank_of_mem_minutesText shift

theorem Spells.eq_cons {cs : List Char} (spells : Spells t cs) (four : t.date.FourDigits) :
    ∃ c rest, cs = c :: rest ∧ isAsciiDigit c = true := by
  have front {d : Date} (digits : d.FourDigits) (rest : List Char) :
      ∃ c later, d.text ++ rest = c :: later ∧ isAsciiDigit c = true := by
    obtain ⟨c, later, eq, digit⟩ := text_eq_cons digits
    exact ⟨c, later ++ rest, by rw [eq, List.cons_append], digit⟩
  cases spells with
  | offset separates signed short local_ moved => exact front local_ _
  | day => exact text_eq_cons four
  | letter | blank | universal | minutes => exact front four _

/-- No format claims a text that is meant for a later one, and the one that it is meant for reads
the moment that the text spells. -/
theorem SpelledAs.parse? {s : String} (spelled : SpelledAs t s) : parse? s = some t := by
  obtain ⟨whole, four, before, cs, after, blankBefore, blankAfter, spells, rfl⟩ := spelled
  have trimmed : trim (before ++ (cs ++ after)) = cs := by
    rw [trim_padded blankBefore blankAfter, trim_of_isTrimmed (spells.isTrimmed four)]
  simp only [Calendar.parse?, String.toList_ofList, trimmed]
  cases spells with
  | letter =>
      rw [internet?_append four, clock?_without_offset (.inl rfl) four whole, blanks_letter four,
        layout?_seconds rfl four whole]
      rfl
  | blank =>
      have separates : Separator.blanks.read (' ' :: secondsText t.seconds) =
          some (secondsText t.seconds) := congrArg some (trimStart_minutesText t.seconds _)
      rw [internet?_append four, clock?_without_offset (.inr rfl) four whole,
        layout?_seconds separates four whole]
      rfl
  | universal separates =>
      have zone : Calendar.offset ['Z'] = some (0, []) := rfl
      have still : t.addSeconds? (-0) = some t := DateTime.addSeconds?_eq_some_iff.2 (by simp)
      rw [internet?_append four, clock?_seconds separates four whole (by simp), zone]
      exact congrArg (· <|> _) still
  | @offset u separator sign minutes separates signed short local_ moved =>
      have back := DateTime.addSeconds?_neg moved
      have start : (offsetText sign minutes).head? ≠ some '.' := by
        rcases signed with rfl | rfl <;> simp [offsetText]
      have wholeLocal := (DateTime.addSeconds?_eq_some_iff.1 moved).1.trans whole
      rw [internet?_append local_, clock?_seconds separates local_ wholeLocal start,
        offset_offsetText _ short signed]
      exact congrArg (· <|> _) back
  | minutes sharp =>
      rw [internet?_append four, clock?_minutes (.inr rfl) t.seconds_lt,
        blanks_minutes four t.seconds_lt, letter_blanks four, layout?_minutes four whole sharp]
      rfl
  | day midnight =>
      have start : DateTime.midnight t.date = t := by
        obtain ⟨date, seconds, nanos, _, _⟩ := t
        simp_all [DateTime.midnight]
      simp only [internet?_text four, layout?_text four, plain?_text four]
      exact congrArg some start

theorem SpelledAs.not_isKeyword {s : String} (spelled : SpelledAs t s) : ¬IsKeyword s := by
  obtain ⟨whole, four, before, cs, after, blankBefore, blankAfter, spells, rfl⟩ := spelled
  obtain ⟨c, rest, front, digit⟩ := spells.eq_cons four
  have trimmed : trim (String.ofList (before ++ (cs ++ after))).toList = c :: rest := by
    rw [String.toList_ofList, trim_padded blankBefore blankAfter,
      trim_of_isTrimmed (spells.isTrimmed four), front]
  exact not_isKeyword_of_digit trimmed digit

end Calendar

/-! ## Comparisons -/

open Calendar

/-- Two texts are the same, or they spell the same moment. -/
def Respelled (s s' : String) : Prop :=
  s = s' ∨ ∃ t, SpelledAs t s ∧ SpelledAs t s'

inductive Json.Respelled : Json → Json → Prop where
  | same (v : Json) : Json.Respelled v v
  | text {s s' : String} (respelled : FormRules.Respelled s s') :
    Json.Respelled (.string s) (.string s')

def Record.Respelled (record record' : Record) : Prop :=
  List.Forall₂ (fun e e' => e.1 = e'.1 ∧ e.2.Respelled e'.2) record record'

namespace Respelled

theorem parse?_eq {s s' : String} (respelled : Respelled s s') : parse? s = parse? s' := by
  rcases respelled with rfl | ⟨t, spelled, spelled'⟩
  · rfl
  · rw [spelled.parse?, spelled'.parse?]

/-- A bound is the same under every clock, however its date is spelled. -/
theorem bound_eq {p p' : String} (respelled : Respelled p p') (now : DateTime) :
    DateBound.of now p = DateBound.of now p' := by
  rcases respelled with rfl | ⟨t, spelled, spelled'⟩
  · rfl
  · have bound {s : String} (spelled : SpelledAs t s) : DateBound.of now s = .ok (.at t) := by
      unfold DateBound.of
      rw [resolve_of_not_isKeyword spelled.not_isKeyword, spelled.parse?]
      rfl
    rw [bound spelled, bound spelled']

end Respelled

theorem Json.Respelled.date_eq {v v' : Json} (respelled : v.Respelled v') :
    v.asString?.bind parse? = v'.asString?.bind parse? := by
  cases respelled with
  | same => rfl
  | text texts => exact texts.parse?_eq

theorem Record.Respelled.date?_eq {record record' : Record} (respelled : record.Respelled record')
    (name : String) : record.date? name = record'.date? name := by
  unfold Record.date?
  induction respelled with
  | nil => rfl
  | @cons e e' _ _ member _ ih =>
      obtain ⟨key, value⟩ := e
      obtain ⟨key', value'⟩ := e'
      obtain ⟨rfl, texts⟩ : key = key' ∧ value.Respelled value' := member
      unfold Entries.get?
      split
      · exact texts.date_eq
      · exact ih

theorem compareDate_respelled {v v' : Json} {record record' : Option Record}
    (value : v.Respelled v') (members : Option.Rel Record.Respelled record record')
    (bound : DateBound) (holds : DateTime → DateTime → Bool) (complaint : String → Complaint) :
    compareDate v bound record holds complaint = compareDate v' bound record' holds complaint := by
  have limit : bound.resolve? record = bound.resolve? record' := by
    cases bound with
    | «at» t => rfl
    | field name =>
        rw [DateBound.resolve?_field, DateBound.resolve?_field]
        cases members with
        | none => rfl
        | some members =>
            exact congrArg (Option.map fun u => (u, name)) (members.date?_eq name)
  unfold compareDate
  rw [value.date_eq, limit]

def Constraint.verdict (now : DateTime) (c : Constraint) (base : BaseType) (value : Json)
    (record : Option Record) : Except ClockOverflow (Option Complaint) :=
  (Check.of? now c).map fun check => check.bind fun check => check.complaint? base value record

/-- Every spelling of a moment is read as that moment, and no comparison of dates depends on
spelling: neither the one of the value, nor the one of the date it is compared with, whether this is
written in the rule or in another field. -/
theorem spellings_of_one_date :
    (∀ (t : DateTime) (s : String), SpelledAs t s → parse? s = some t) ∧
    ∀ (parameter parameter' : String) (value value' : Json) (record record' : Option Record),
      Respelled parameter parameter' → value.Respelled value' →
      Option.Rel Record.Respelled record record' → ∀ (now : DateTime) (base : BaseType),
        (Constraint.after parameter).verdict now base value record =
          (Constraint.after parameter').verdict now base value' record' ∧
        (Constraint.before parameter).verdict now base value record =
          (Constraint.before parameter').verdict now base value' record' := by
  refine ⟨fun t s spelled => spelled.parse?, ?_⟩
  intro p p' v v' record record' parameter value members now base
  simp only [Constraint.verdict, Check.of?, parameter.bound_eq now]
  cases DateBound.of now p' with
  | error fault => exact ⟨rfl, rfl⟩
  | ok bound =>
      have same := compareDate_respelled value members bound
      exact ⟨congrArg Except.ok (same _ _), congrArg Except.ok (same _ _)⟩

/-- The last half hour of a leap day, written as the start of March at an offset. -/
theorem leap_day_spelled_at_offset :
    let t : DateTime := ⟨⟨19782, by decide⟩, 81000, 0, by decide, by decide⟩
    let record (start : String) : Option Record := some [("start", .string start)]
    let verdict (start : String) := (Constraint.after "start").verdict .epoch .date
      (.string "2024-02-29T22:30:01Z") (record start)
    t.text = "2024-02-29T22:30:00".toList ∧
    parse? "\t2024-03-01T00:00:00+01:30 " = some t ∧
    verdict "\t2024-03-01T00:00:00+01:30 " = verdict "2024-02-29 22:30" ∧
    verdict "2024-02-29 22:30" = .ok none := by
  intro t record verdict
  obtain ⟨read, comparisons⟩ := spellings_of_one_date
  have four : t.date.FourDigits := ⟨by decide, by decide⟩
  let u : DateTime := ⟨⟨19783, by decide⟩, 0, 0, by decide, by decide⟩
  have fourLocal : u.date.FourDigits := ⟨by decide, by decide⟩
  have moved : t.addSeconds? 5400 = some u := by decide
  have offset : SpelledAs t "\t2024-03-01T00:00:00+01:30 " :=
    ⟨rfl, four, ['\t'], _, [' '], rfl, rfl,
      Spells.offset (.inl rfl) (.inl rfl) (show 90 < 1440 by decide) fourLocal moved,
      by decide +kernel⟩
  have sharp : t.seconds % 60 = 0 := by decide
  have minutes : SpelledAs t "2024-02-29 22:30" :=
    ⟨rfl, four, [], _, [], rfl, rfl, Spells.minutes sharp, by decide +kernel⟩
  have members : Option.Rel Record.Respelled (record "\t2024-03-01T00:00:00+01:30 ")
      (record "2024-02-29 22:30") :=
    .some (.cons ⟨rfl, .text (.inr ⟨t, offset, minutes⟩)⟩ .nil)
  have same := comparisons "start" "start" (.string "2024-02-29T22:30:01Z") _ _ _ (.inl rfl)
    (.same _) members .epoch .date
  exact ⟨by decide +kernel, read t _ offset, same.1, by decide +kernel⟩

end FormRules
