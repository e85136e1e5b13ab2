import FormRules.Numeric.Decimal

/-!
# Dates and date-times

Days of the Gregorian calendar, extended to both sides, and times of day to the
nanosecond.  A day is a number counted from 1970-01-01; year, month and day of
the month are computed from it.
-/

namespace FormRules

/-! ## Counting days -/

namespace Calendar

def isLeap (year : Int) : Bool :=
  year % 4 = 0 && (year % 100 ≠ 0 || year % 400 = 0)

def daysInMonth (year : Int) (month : Nat) : Nat :=
  match month with
  | 2 => if isLeap year then 29 else 28
  | 4 | 6 | 9 | 11 => 30
  | _ => 31

/--
The number of a day.  Years are taken to start in March, so that the leap day
comes last; 400 years have 146097 days.
-/
def dayNumber (year : Int) (month day : Nat) : Int :=
  let y := if month ≤ 2 then year - 1 else year
  let era := y / 400
  let yearOfEra := y % 400
  let dayOfYear : Int := (153 * ((month + 9) % 12) + 2) / 5 + day - 1
  let dayOfEra := yearOfEra * 365 + yearOfEra / 4 - yearOfEra / 100 + dayOfYear
  era * 146097 + dayOfEra - 719468

structure Civil where
  year : Int
  month : Nat
  day : Nat
deriving DecidableEq, Repr

def civil (days : Int) : Civil :=
  let z := days + 719468
  let era := z / 146097
  let doe := (z % 146097).toNat
  let yoe := (doe - doe / 1460 + doe / 36524 - doe / 146096) / 365
  let doy := doe - (365 * yoe + yoe / 4 - yoe / 100)
  let mp := (5 * doy + 2) / 153
  let day := doy - (153 * mp + 2) / 5 + 1
  let month := if mp < 10 then mp + 3 else mp - 9
  let year := (yoe : Int) + era * 400
  ⟨if month ≤ 2 then year + 1 else year, month, day⟩

/-- The first day that can be represented, -262143-01-01. -/
def firstDay : Int := dayNumber (-262143) 1 1

/-- The last day that can be represented, +262142-12-31. -/
def lastDay : Int := dayNumber 262142 12 31

end Calendar

/-! ## Dates -/

structure Date where
  days : Int
  inRange : Calendar.firstDay ≤ days ∧ days ≤ Calendar.lastDay
deriving DecidableEq

namespace Date

def ofDays? (days : Int) : Option Date :=
  if h : Calendar.firstDay ≤ days ∧ days ≤ Calendar.lastDay then some ⟨days, h⟩ else none

def ofCivil? (year : Int) (month day : Nat) : Option Date :=
  if 1 ≤ month ∧ month ≤ 12 ∧ 1 ≤ day ∧ day ≤ Calendar.daysInMonth year month then
    ofDays? (Calendar.dayNumber year month day)
  else none

def civil (d : Date) : Calendar.Civil :=
  Calendar.civil d.days

/-- The text of a year: four digits, or a sign and at least four. -/
def yearText (year : Int) : List Char :=
  if 0 ≤ year ∧ year < 10000 then Decimal.padded 4 year.toNat
  else (if year < 0 then '-' else '+') :: Decimal.padded 4 year.natAbs

def text (d : Date) : List Char :=
  let c := d.civil
  yearText c.year ++ '-' :: Decimal.padded 2 c.month ++ '-' :: Decimal.padded 2 c.day

end Date

/-! ## Date-times -/

structure DateTime where
  date : Date
  seconds : Nat
  /-- The nanoseconds of the second; a leap second goes on beyond a thousand million. -/
  nanos : Nat
  seconds_lt : seconds < 86400
  nanos_lt : nanos < 2000000000
deriving DecidableEq

namespace DateTime

def midnight (date : Date) : DateTime :=
  ⟨date, 0, 0, by decide, by decide⟩

def epoch : DateTime :=
  midnight ⟨0, by decide⟩

def of? (date : Date) (seconds nanos : Nat) : Option DateTime :=
  if h : seconds < 86400 ∧ nanos < 2000000000 then some ⟨date, seconds, nanos, h.1, h.2⟩ else none

/-- The place of a date-time on one line. -/
def instant (t : DateTime) : Int :=
  (t.date.days * 86400 + t.seconds) * 2000000000 + t.nanos

instance : LT DateTime := ⟨fun a b => a.instant < b.instant⟩
instance (a b : DateTime) : Decidable (a < b) := inferInstanceAs (Decidable (a.instant < b.instant))

/-- Move by whole seconds; `none` if that leaves the range of dates. -/
def addSeconds? (t : DateTime) (delta : Int) : Option DateTime :=
  let total := (t.seconds : Int) + delta
  (Date.ofDays? (t.date.days + total / 86400)).bind fun date =>
    of? date (total % 86400).toNat t.nanos

def dayAfter? (t : DateTime) (count : Int) : Option DateTime :=
  (Date.ofDays? (t.date.days + count)).map midnight

/-- The fraction of a second in 3, 6 or 9 digits, and nothing if it is zero. -/
def fractionText (nanos : Nat) : List Char :=
  if nanos = 0 then []
  else if nanos % 1000000 = 0 then '.' :: Decimal.padded 3 (nanos / 1000000)
  else if nanos % 1000 = 0 then '.' :: Decimal.padded 6 (nanos / 1000)
  else '.' :: Decimal.padded 9 nanos

/-- The text `YYYY-MM-DDTHH:MM:SS` with a fraction if there is one; a leap second is the 60th. -/
def text (t : DateTime) : List Char :=
  let leap := 1000000000 ≤ t.nanos
  let second := t.seconds % 60 + (if leap then 1 else 0)
  let nanos := if leap then t.nanos - 1000000000 else t.nanos
  t.date.text ++ 'T' :: Decimal.padded 2 (t.seconds / 3600) ++
    ':' :: Decimal.padded 2 (t.seconds / 60 % 60) ++ ':' :: Decimal.padded 2 second ++
    fractionText nanos

end DateTime

end FormRules
