import FormRules.Main
import FormRules.Payload
import FormRules.Schema.Form
import FormRules.Proofs.Compilation
import FormRules.Projection
import FormRules.Proofs.Conformance
import FormRules.Proofs.Isolation
import FormRules.Proofs.Normalization
import FormRules.Proofs.OrderIndependence
import FormRules.Proofs.Decimal
import FormRules.Proofs.Json.Reads
import FormRules.Proofs.Json.Scalars
import FormRules.Proofs.Json.Numerals
import FormRules.Proofs.Json.Containers
import FormRules.Proofs.Json.Texts
import FormRules.Proofs.Json.Yields
import FormRules.Proofs.Json.Soundness
import FormRules.Proofs.Json.Longer
import FormRules.Proofs.Json.Values
import FormRules.Proofs.Wire
import FormRules.Proofs.Transfer
import FormRules.Proofs.FormHistory
import FormRules.Proofs.FirstFailure
import FormRules.Proofs.Degradation
import FormRules.Proofs.IdleRules
import FormRules.Proofs.Interchange
import FormRules.Proofs.Pieces
import FormRules.Proofs.Trimming
import FormRules.Proofs.Literal
import FormRules.Proofs.TokenText
import FormRules.Proofs.Expressible
import FormRules.Proofs.Insertions
import FormRules.Proofs.Merging
import FormRules.Proofs.SingleField
import FormRules.Proofs.CalendarEnds
import FormRules.Proofs.Rounding
import FormRules.Proofs.NumericBounds
import FormRules.Proofs.Subset
import FormRules.Proofs.Registrations
import FormRules.Proofs.Reports
import FormRules.Proofs.SavedFiles
import FormRules.Proofs.WrittenRules
import FormRules.Proofs.CivilDates
import FormRules.Proofs.DateText
import FormRules.Proofs.ClockKeywords
import FormRules.Proofs.RuleLog
import FormRules.Proofs.ListedValues
import FormRules.Proofs.DateOrder
import FormRules.Proofs.LineRecords
import FormRules.Proofs.Descriptors
import FormRules.Proofs.FileTypes
import FormRules.Proofs.Scaling
import FormRules.Proofs.FileSizes
import FormRules.Proofs.Applicability
import FormRules.Proofs.BoundOrder
import FormRules.Proofs.DeclarationText
import FormRules.Proofs.PatternDelimiters
import FormRules.Proofs.WholeParts
import FormRules.Proofs.CutFractions
import FormRules.Proofs.Matching
import FormRules.Proofs.EmailGrammar
import FormRules.Proofs.DateSpellings
import FormRules.Proofs.TrailingText
