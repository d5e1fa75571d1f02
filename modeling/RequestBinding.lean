import RequestBinding.Json.Body
import RequestBinding.Main
import RequestBinding.Schema.Outline
import RequestBinding.Yaml.Block
import RequestBinding.Proofs.Source.KeyFamily
import RequestBinding.Proofs.Convert.FinderLocality
import RequestBinding.Proofs.Convert.StrictRestriction
import RequestBinding.Proofs.Form.Values
import RequestBinding.Proofs.Number.Numeral
import RequestBinding.Proofs.Source.Siblings
import RequestBinding.Proofs.Value.Entries
import RequestBinding.Proofs.Convert.WrittenForm
import RequestBinding.Proofs.Convert.Assembly
import RequestBinding.Proofs.Convert.RoundTrip
import RequestBinding.Proofs.Record.FieldPaths
import RequestBinding.Proofs.Request.Readings
import RequestBinding.Proofs.Schema.Extraction
import RequestBinding.Proofs.Schema.Independence
import RequestBinding.Proofs.Request.Operations
import RequestBinding.Proofs.Request.Consumption
import RequestBinding.Proofs.Constraint.ZeroValues
import RequestBinding.Proofs.Request.Repetition
import RequestBinding.Proofs.Schema.Nonzero
import RequestBinding.Proofs.Source.Allowance
import RequestBinding.Proofs.Value.Elements
import RequestBinding.Proofs.Convert.Amplification
import RequestBinding.Proofs.Schema.Description
import RequestBinding.Proofs.Schema.Soundness
import RequestBinding.Proofs.Schema.Arrangement
import RequestBinding.Proofs.Schema.Handles
import RequestBinding.Proofs.Source.Likeness
import RequestBinding.Proofs.Convert.Likeness
import RequestBinding.Proofs.Request.Likeness
import RequestBinding.Proofs.Schema.Silence
import RequestBinding.Proofs.Convert.FlatValues
import RequestBinding.Proofs.Convert.Typing
import RequestBinding.Proofs.Request.Payload
import RequestBinding.Proofs.Request.WellFormed
import RequestBinding.Proofs.Tag.Rendering
import RequestBinding.Proofs.Bind.Priority
import RequestBinding.Proofs.Schema.FormCap
import RequestBinding.Proofs.Constraint.Leaves
import RequestBinding.Proofs.Schema.Constraints
import RequestBinding.Proofs.Convert.Leniency
import RequestBinding.Proofs.Convert.IndexLimit
import RequestBinding.Proofs.Convert.MapEntries
import RequestBinding.Proofs.Convert.ListSpellings
import RequestBinding.Proofs.Convert.Stability
import RequestBinding.Proofs.Schema.Destination
import RequestBinding.Proofs.Schema.History
import RequestBinding.Proofs.Constraint.FirstViolation
import RequestBinding.Proofs.Constraint.Declarations
import RequestBinding.Proofs.Constraint.Lengths
import RequestBinding.Proofs.Schema.SingleField
import RequestBinding.Proofs.Command.TagReport
import RequestBinding.Proofs.Number.Rounding
import RequestBinding.Proofs.Number.FloatOfInt
import RequestBinding.Proofs.Number.FloatOrder
import RequestBinding.Proofs.Number.Literals
import RequestBinding.Proofs.Constraint.IntegerBounds
import RequestBinding.Proofs.Schema.IntegerRange
import RequestBinding.Proofs.Command.Carriers
import RequestBinding.Proofs.Command.QueryTrial
import RequestBinding.Proofs.Request.CookieRendering
import RequestBinding.Proofs.Pattern.Matching
import RequestBinding.Proofs.Pattern.Tokens
import RequestBinding.Proofs.Pattern.Splicing
import RequestBinding.Proofs.Constraint.FullMatches
import RequestBinding.Proofs.WireName.SnakeSpelling
import RequestBinding.Proofs.Form.Makings
import RequestBinding.Proofs.Record.Examples
import RequestBinding.Proofs.Convert.Termination
