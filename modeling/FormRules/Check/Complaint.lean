import FormRules.Check.Measure

/-!
# Complaints

Why a value is rejected, and the message that tells it to the user of a form.
-/

namespace FormRules

inductive Complaint where
  | required
  | wrongType (base : BaseType) (received : Json.Kind)
  | notDate
  | belowMin (bound : Int64) (unit : Option SizeUnit)
  | aboveMax (bound : Int64) (unit : Option SizeUnit)
  | notSize (bound : Int64) (unit : Option SizeUnit)
  | notOneOf (values : List String)
  | badFormat
  | badEmail
  | badUrl
  | notImage
  | notConfirmed
  | notAfter (limit : String)
  | notBefore (limit : String)
deriving DecidableEq

namespace Complaint

def quantity (bound : Int64) (unit : Option SizeUnit) : String :=
  let n := String.ofList (Decimal.integer bound.toInt)
  match unit with
  | some u => n ++ " " ++ u.text
  | none => n

def message : Complaint → String
  | .required => "This field is required"
  | .wrongType base received => "Expected " ++ base.name ++ ", received " ++ received.name
  | .notDate => "Invalid date"
  | .belowMin bound unit => "Must be at least " ++ quantity bound unit
  | .aboveMax bound unit => "Must be no more than " ++ quantity bound unit
  | .notSize bound unit => "Must be exactly " ++ quantity bound unit
  | .notOneOf values => "Must be one of: " ++ Text.joinTexts ", " values
  | .badFormat => "Invalid format"
  | .badEmail => "Please enter a valid email address"
  | .badUrl => "Please enter a valid URL"
  | .notImage => "Must be an image file"
  | .notConfirmed => "Confirmation does not match"
  | .notAfter limit => "Must be a date after " ++ limit
  | .notBefore limit => "Must be a date before " ++ limit

end Complaint

/-- What a value that is not of a type is rejected with. -/
def BaseType.complaint? (base : BaseType) (value : Json) : Option Complaint :=
  if base.admits value then none
  else
    match base, value with
    | .date, .string _ => some .notDate
    | _, _ => some (.wrongType base value.kind)

end FormRules
