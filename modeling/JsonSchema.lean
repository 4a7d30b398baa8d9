import JsonSchema.Builder
import JsonSchema.Main
import JsonSchema.Proofs.Answer
import JsonSchema.Proofs.Applicable
import JsonSchema.Proofs.Checks
import JsonSchema.Proofs.Command.Report
import JsonSchema.Proofs.Command.Status
import JsonSchema.Proofs.Content.Alike
import JsonSchema.Proofs.Content.Checks
import JsonSchema.Proofs.Content.Equality
import JsonSchema.Proofs.Content.Object
import JsonSchema.Proofs.Content.Validity
import JsonSchema.Proofs.Content.Verdict
import JsonSchema.Proofs.Correspondence
import JsonSchema.Proofs.Defaults
import JsonSchema.Proofs.Defects
import JsonSchema.Proofs.Depth
import JsonSchema.Proofs.Elements
import JsonSchema.Proofs.Erasure
import JsonSchema.Proofs.Files
import JsonSchema.Proofs.Follows
import JsonSchema.Proofs.Insertion
import JsonSchema.Proofs.JsonForm
import JsonSchema.Proofs.Keyword
import JsonSchema.Proofs.Literals
import JsonSchema.Proofs.Loading.Failure
import JsonSchema.Proofs.Magnitude
import JsonSchema.Proofs.Masking.Checks
import JsonSchema.Proofs.Masking.Verdict
import JsonSchema.Proofs.Multiple
import JsonSchema.Proofs.Number
import JsonSchema.Proofs.Object.ClosedRecord
import JsonSchema.Proofs.Object.Completion
import JsonSchema.Proofs.Object.Integer
import JsonSchema.Proofs.Object.Present
import JsonSchema.Proofs.Object.Reported
import JsonSchema.Proofs.Object.Required
import JsonSchema.Proofs.Object.Settled
import JsonSchema.Proofs.Object.Stable
import JsonSchema.Proofs.Object.Violations
import JsonSchema.Proofs.Object.Visit
import JsonSchema.Proofs.Opening
import JsonSchema.Proofs.Part
import JsonSchema.Proofs.Path
import JsonSchema.Proofs.Placement
import JsonSchema.Proofs.Pointer
import JsonSchema.Proofs.Position
import JsonSchema.Proofs.Range
import JsonSchema.Proofs.Rational
import JsonSchema.Proofs.ReadBack.Document
import JsonSchema.Proofs.ReadBack.Scalar
import JsonSchema.Proofs.ReadBack.Value
import JsonSchema.Proofs.Readers.Agreement
import JsonSchema.Proofs.Registration
import JsonSchema.Proofs.Related
import JsonSchema.Proofs.Relocation
import JsonSchema.Proofs.Rounding
import JsonSchema.Proofs.SameKey
import JsonSchema.Proofs.Stability
import JsonSchema.Proofs.Symmetry
import JsonSchema.Proofs.Utf8
import JsonSchema.Proofs.WellTyped
import JsonSchema.Registry
