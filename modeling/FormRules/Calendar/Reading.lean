import FormRules.Calendar.DateTime
import FormRules.Text.Blank

/-!
# Reading dates

A date text is tried against the internet date-time format with an offset from
universal time, then against three layouts without one, then against the plain
date.  The layouts allow blanks before every number, fewer digits, and a sign
before a year of any length.
-/

namespace FormRules.Calendar

open Text

/-! ## Steps -/

abbrev Front (α : Type) := List Char → Option (α × List Char)

def char (c : Char) (cs : List Char) : Option (List Char) :=
  match cs with
  | [] => none
  | d :: rest => if d = c then some rest else none

def digits (least most : Nat) : Front Nat := fun cs =>
  let ds := (cs.take most).takeWhile isAsciiDigit
  if ds.length < least then none
  else some (Decimal.value ds, cs.drop ds.length)

def allDigits : Front Nat := fun cs =>
  digits 1 cs.length cs

def bounded (lo hi : Nat) (read : Front Nat) : Front Nat := fun cs => do
  let (n, rest) ← read cs
  if lo ≤ n ∧ n ≤ hi then some (n, rest) else none

def number (lo hi : Nat) : Front Nat := fun cs =>
  bounded lo hi (digits 1 2) (trimStart cs)

/-- Read a year: up to four digits, or any number of them behind a sign. -/
def year : Front Int := fun cs =>
  match trimStart cs with
  | '-' :: rest => do
    let (n, rest) ← allDigits rest
    some (-(n : Int), rest)
  | '+' :: rest => do
    let (n, rest) ← allDigits rest
    some ((n : Int), rest)
  | rest => do
    let (n, rest) ← digits 1 4 rest
    some ((n : Int), rest)

/-- The date-time of a date, an hour, a minute, a second up to the leap second, and nanoseconds. -/
def assemble (date : Date) (hour minute second nanos : Nat) : Option DateTime :=
  let leap := second = 60
  DateTime.of? date (hour * 3600 + minute * 60 + (if leap then 59 else second))
    (nanos + if leap then 1000000000 else 0)

/-! ## The internet format -/

/-- Read an offset from universal time in seconds: `Z`, or a sign, hours and minutes. -/
def offset : Front Int := fun cs =>
  match cs with
  | [] => none
  | c :: rest =>
    if c = 'Z' || c = 'z' then some (0, rest)
    else if c = '+' then signed 1 rest
    else if c = '-' || c = '−' then signed (-1) rest
    else none
where
  signed (sign : Int) : Front Int := fun cs => do
    let (hours, cs) ← bounded 0 23 (digits 2 2) cs
    let cs ← char ':' cs
    let (minutes, cs) ← bounded 0 59 (digits 2 2) cs
    some (sign * (hours * 3600 + minutes * 60 : Nat), cs)

/-- Read a fraction of a second, in nanoseconds; digits beyond the ninth do not count. -/
def fraction : Front Nat := fun cs =>
  match cs with
  | '.' :: rest => do
    let (n, after) ← digits 1 9 rest
    let count := rest.length - after.length
    some (n * Nat.pow 10 (9 - count), after.dropWhile isAsciiDigit)
  | _ => some (0, cs)

/-- Read a date-time of the internet format, as universal time. -/
def internet? (cs : List Char) : Option DateTime := do
  let (year, cs) ← digits 4 4 cs
  let cs ← char '-' cs
  let (month, cs) ← bounded 1 12 (digits 2 2) cs
  let cs ← char '-' cs
  let (day, cs) ← bounded 1 31 (digits 2 2) cs
  let cs ← match cs with
    | c :: rest => if c = 'T' || c = 't' || c = ' ' then some rest else none
    | [] => none
  let (hour, cs) ← bounded 0 23 (digits 2 2) cs
  let cs ← char ':' cs
  let (minute, cs) ← bounded 0 59 (digits 2 2) cs
  let cs ← char ':' cs
  let (second, cs) ← bounded 0 60 (digits 2 2) cs
  let (nanos, cs) ← fraction cs
  let (offset, cs) ← offset cs
  if cs.isEmpty then
    let date ← Date.ofCivil? year month day
    let local_ ← assemble date hour minute second nanos
    local_.addSeconds? (-offset)
  else none

/-! ## Layouts -/

def dateFront : Front Date := fun cs => do
  let (year, cs) ← year cs
  let cs ← char '-' cs
  let (month, cs) ← number 1 12 cs
  let cs ← char '-' cs
  let (day, cs) ← number 1 31 cs
  let date ← Date.ofCivil? year month day
  some (date, cs)

inductive Separator where
  | blanks
  | letter
deriving DecidableEq

def Separator.read : Separator → List Char → Option (List Char)
  | .blanks, cs => some (trimStart cs)
  | .letter, cs => char 'T' cs

def layout? (separator : Separator) (withSeconds withFraction : Bool) (cs : List Char) :
    Option DateTime := do
  let (date, cs) ← dateFront cs
  let cs ← separator.read cs
  let (hour, cs) ← number 0 23 cs
  let cs ← char ':' cs
  let (minute, cs) ← number 0 59 cs
  let (second, cs) ←
    if withSeconds then do
      let cs ← char ':' cs
      number 0 60 cs
    else some (0, cs)
  let (nanos, cs) ← if withFraction then fraction cs else some (0, cs)
  if cs.isEmpty then assemble date hour minute second nanos else none

def plain? (cs : List Char) : Option Date := do
  let (date, cs) ← dateFront cs
  if cs.isEmpty then some date else none

/-- Read a plain date with blanks after each of its numbers, as on a command line. -/
def argument? (cs : List Char) : Option Date := do
  let (year, cs) ← year cs
  let cs ← char '-' (trimStart cs)
  let (month, cs) ← number 1 12 cs
  let cs ← char '-' (trimStart cs)
  let (day, cs) ← number 1 31 cs
  if (trimStart cs).isEmpty then Date.ofCivil? year month day else none

/-! ## Date texts -/

def parse? (s : String) : Option DateTime :=
  let cs := trim s.toList
  internet? cs
    <|> layout? .blanks true false cs
    <|> layout? .letter true false cs
    <|> layout? .blanks false false cs
    <|> (plain? cs).map DateTime.midnight

/-! ## Relative dates -/

inductive Reference where
  | at (t : DateTime)
  | beyond
  | name
deriving DecidableEq

/-- The day some days from now, at its start. -/
def Reference.day (now : DateTime) (count : Int) : Reference :=
  match now.dayAfter? count with
  | some t => .at t
  | none => .beyond

/-- Resolve a date parameter against the clock: a keyword or a date text. -/
def resolve (s : String) (now : DateTime) : Reference :=
  let word := lowerAsciiText (trimText s)
  if word = "now" then .at now
  else if word = "today" then .at (.midnight now.date)
  else if word = "tomorrow" then .day now 1
  else if word = "yesterday" then .day now (-1)
  else
    match parse? s with
    | some t => .at t
    | none => .name

end FormRules.Calendar
