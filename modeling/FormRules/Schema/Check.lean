import FormRules.Check.Complaint
import FormRules.Pattern.Regex
import FormRules.Text.Blank
import FormRules.Text.Pieces
import FormRules.Url.Parse

/-!
# Checks

The executable form of constraints.  A check looks at one value and, where it
refers to another field, at the record around it; what it does not apply to it
lets pass.

An e-mail address is a local part, an at sign, and a domain with a dot that is
neither its first nor its last character; blanks occur nowhere and there is no
second at sign.
-/

namespace FormRules.Email

/-! ## E-mail addresses -/

open Text

def isPart (cs : List Char) : Bool :=
  !cs.isEmpty && cs.all fun c => !isBlank c && c ≠ '@'

def isAddress (cs : List Char) : Bool :=
  match splitFirst '@' cs with
  | none => false
  | some (name, domain) =>
    match splitLast '.' domain with
    | none => false
    | some (host, top) => isPart name && isPart host && isPart top

def isValid (s : String) : Bool :=
  isAddress s.toList

end FormRules.Email

namespace FormRules

/-! ## Kinds of checks -/

inductive DateBound where
  | at (t : DateTime)
  | field (name : String)

inductive Check where
  | min (bound : Int64)
  | max (bound : Int64)
  | size (bound : Int64)
  | oneOf (values : List String)
  | pattern (regex : Regex)
  | email
  | url
  | image
  | mimes (types : List String)
  | confirmed (field : String)
  | after (bound : DateBound)
  | before (bound : DateBound)
  | notEmpty

abbrev Record := List (String × Json)

/-! ## From constraints -/

inductive ClockOverflow where
  | mk
deriving DecidableEq

/-- The date that a parameter refers to. -/
def DateBound.of (now : DateTime) (parameter : String) : Except ClockOverflow DateBound :=
  match Calendar.resolve parameter now with
  | .at t => .ok (.at t)
  | .name => .ok (.field (Text.trimText parameter))
  | .beyond => .error .mk

/-- The pattern of a constraint whose pattern does not compile. -/
def Constraint.brokenPattern? : Constraint → Option String
  | .pattern text =>
    match Regex.compile? (Pattern.undelimitedText text) with
    | some _ => none
    | none => some text
  | _ => none

def Check.of? (now : DateTime) : Constraint → Except ClockOverflow (Option Check)
  | .min bound => .ok (some (.min bound))
  | .max bound => .ok (some (.max bound))
  | .size bound => .ok (some (.size bound))
  | .oneOf values => .ok (some (.oneOf values))
  | .pattern text => .ok ((Regex.compile? (Pattern.undelimitedText text)).map .pattern)
  | .confirmed field => .ok (some (.confirmed field))
  | .unique _ _ => .ok none
  | .existing _ _ => .ok none
  | .after date => (DateBound.of now date).map fun b => some (.after b)
  | .before date => (DateBound.of now date).map fun b => some (.before b)
  | .mimes types =>
    .ok (some (.mimes (types.map fun t => Text.lowerAsciiText (Text.trimText t))))
  | .image => .ok (some .image)
  | .email => .ok (some .email)
  | .url => .ok (some .url)

/-! ## Running -/

def ensure (ok : Bool) (complaint : Complaint) : Option Complaint :=
  if ok then none else some complaint

/-- The date of a bound and the name that a message gives it; `none` if it is not known. -/
def DateBound.resolve? (record : Option Record) : DateBound → Option (DateTime × String)
  | .at t => some (t, String.ofList t.date.text)
  | .field name => do
    let text ← (← Entries.get? name (← record)).asString?
    return (← Calendar.parse? text, name)

def compareDate (value : Json) (bound : DateBound) (record : Option Record)
    (holds : DateTime → DateTime → Bool) (complaint : String → Complaint) : Option Complaint :=
  match value.asString?.bind Calendar.parse? with
  | none => none
  | some actual =>
    match bound.resolve? record with
    | none => none
    | some (limit, label) => ensure (holds actual limit) (complaint label)

def bounded (base : BaseType) (value : Json) (holds : Binary64 → Bool) (complaint : Complaint) :
    Option Complaint :=
  match base.measure? value with
  | some m => ensure (holds m) complaint
  | none => none

def onText (value : Json) (holds : String → Bool) (complaint : Complaint) : Option Complaint :=
  match value with
  | .string s => ensure (holds s) complaint
  | _ => none

def onFile (value : Json) (holds : FileHandle → Bool) (complaint : Complaint) :
    Option Complaint :=
  match FileHandle.ofJson? value with
  | some f => ensure (holds f) complaint
  | none => none

/-- What a check says against a value of a type. -/
def Check.complaint? (base : BaseType) (value : Json) (record : Option Record) :
    Check → Option Complaint
  | .min n =>
    bounded base value (fun m => Binary64.ofInt n.toInt ≤ m) (.belowMin n base.unit?)
  | .max n =>
    bounded base value (fun m => m ≤ Binary64.ofInt n.toInt) (.aboveMax n base.unit?)
  | .size n =>
    bounded base value (fun m => m.sameValue (Binary64.ofInt n.toInt)) (.notSize n base.unit?)
  | .oneOf values => ensure (value.isOneOf values) (.notOneOf values)
  | .pattern regex => onText value regex.isMatch .badFormat
  | .email => onText value Email.isValid .badEmail
  | .url => onText value Url.isValid .badUrl
  | .image => onFile value FileHandle.isImage .notImage
  | .mimes types =>
    onFile value (fun f => types.contains (f.extension?.getD "")) (.notOneOf types)
  | .confirmed field =>
    match record with
    | some record =>
      ensure (match Entries.get? field record with
        | some other => other.same value
        | none => false) .notConfirmed
    | none => none
  | .after bound => compareDate value bound record (fun v b => b < v) .notAfter
  | .before bound => compareDate value bound record (fun v b => v < b) .notBefore
  | .notEmpty => onText value (fun s => s ≠ "") .required

end FormRules
