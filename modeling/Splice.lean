import Splice.Binary64
import Splice.Bindings
import Splice.Config
import Splice.Config.Reader
import Splice.Decimal
import Splice.Evaluation
import Splice.Expansion
import Splice.Handle
import Splice.Inspection
import Splice.KeyTable
import Splice.NumberStyle
import Splice.Proofs.AccessScan
import Splice.Proofs.Capacity
import Splice.Proofs.Coherence
import Splice.Proofs.ConfigText
import Splice.Proofs.Continuation
import Splice.Proofs.CutText
import Splice.Proofs.DecimalLayout
import Splice.Proofs.DriverFilling
import Splice.Proofs.Equality
import Splice.Proofs.FirstOccurrence
import Splice.Proofs.Handover
import Splice.Proofs.Identity
import Splice.Proofs.Inlining
import Splice.Proofs.InsertionHistory
import Splice.Proofs.Insulation
import Splice.Proofs.JsonText
import Splice.Proofs.MarkerSplit
import Splice.Proofs.MemberList
import Splice.Proofs.MinimalDecimal
import Splice.Proofs.NumberLiteral
import Splice.Proofs.Numeral
import Splice.Proofs.Pairing
import Splice.Proofs.Passes
import Splice.Proofs.ReadOver
import Splice.Proofs.RegistrationHistory
import Splice.Proofs.Registry
import Splice.Proofs.Rendering
import Splice.Proofs.Request
import Splice.Proofs.Resolution
import Splice.Proofs.Rounding
import Splice.Proofs.Sameness
import Splice.Proofs.Segmentation
import Splice.Proofs.Sharing
import Splice.Proofs.ShortestDecimal
import Splice.Proofs.SignificantDigits
import Splice.Proofs.Spacing
import Splice.Proofs.Spelling
import Splice.Proofs.StringLiteral
import Splice.Proofs.Truncation
import Splice.Proofs.WholeNumber
import Splice.Template
import Splice.Template.Builder
import Splice.Text.CharSet
import Splice.Text.Demand
import Splice.Text.Extending
import Splice.Text.Numeral
import Splice.Text.Quoted
import Splice.Text.Token
import Splice.Text.Unprintable
import Splice.Text.Visible
import Splice.Value
import Splice.Value.Identity
import Splice.Value.Literal
