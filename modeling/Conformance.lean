import Conformance.Main
import Conformance.Proofs.Document.Structure
import Conformance.Proofs.Number.Value
import Conformance.Proofs.Validation.Findings
import Conformance.Proofs.Validation.Modes
import Conformance.Proofs.Schema.Readers
import Conformance.Proofs.Schema.WellFormed
import Conformance.Proofs.Validation.Conforms
import Conformance.Proofs.Document.Names
import Conformance.Proofs.Document.Reading
import Conformance.Proofs.Report.Pointer
import Conformance.Proofs.Schema.ReadingOrder
import Conformance.Proofs.Schema.Culprit
import Conformance.Proofs.Validation.Located
import Conformance.Proofs.Document.Alike
import Conformance.Proofs.Text.Order
import Conformance.Proofs.Document.Dump
import Conformance.Proofs.Validation.Rearranged
import Conformance.Proofs.Schema.Pruned
import Conformance.Proofs.Validation.Respelt
import Conformance.Proofs.Validation.Visits
import Conformance.Proofs.Validation.Depth
import Conformance.Proofs.Validation.Apart
import Conformance.Proofs.Json.Tokens
import Conformance.Proofs.Document.Members
import Conformance.Proofs.Json.Written
import Conformance.Proofs.Json.Clean
import Conformance.Proofs.Files.Tree
import Conformance.Proofs.Report.Stored
import Conformance.Proofs.Session.Run
import Conformance.Proofs.Session.Reports
import Conformance.Proofs.Json.Grammar
import Conformance.Proofs.Json.Lexemes
import Conformance.Proofs.Json.Derivation
import Conformance.Proofs.Number.Range
import Conformance.Proofs.Document.Denotation
import Conformance.Proofs.Document.Accepted
import Conformance.Proofs.Session.Loading
import Conformance.Proofs.Session.Kept
import Conformance.Proofs.Command.Arguments
import Conformance.Proofs.Command.Exit
import Conformance.Proofs.Document.Decoded
import Conformance.Proofs.Json.Lines
import Conformance.Proofs.Files.Resolved
import Conformance.Proofs.Text.Scalar
import Conformance.Proofs.Document.Scalar
import Conformance.Proofs.Validation.Scalar
import Conformance.Proofs.Session.EntryPoints
import Conformance.Proofs.Command.Agreement
import Conformance.Proofs.Schema.Refusals
import Conformance.Proofs.Session.Validity
import Conformance.Proofs.Logging.Calls
import Conformance.Proofs.Session.Logged
import Conformance.Proofs.Command.Spelling
import Conformance.Proofs.Command.LogOptions
import Conformance.Proofs.Command.Noted
import Conformance.Proofs.Validation.Places
import Conformance.Proofs.Number.Rounding
import Conformance.Proofs.Number.Nearest
import Conformance.Proofs.Number.Decimal
import Conformance.Proofs.Number.Shortest
import Conformance.Proofs.Json.Real
import Conformance.Proofs.Document.Conversion
import Conformance.Proofs.Document.Converted
import Conformance.Proofs.Document.Equality
import Conformance.Proofs.Document.Canonical
import Conformance.Proofs.Document.Representable
import Conformance.Proofs.Validation.Checked
import Conformance.Proofs.Validation.Unmentioned
import Conformance.Proofs.Validation.Loosened
import Conformance.Proofs.Json.Rational
import Conformance.Proofs.Json.Unambiguous
import Conformance.Proofs.Document.Kept
import Conformance.Proofs.Document.Numerals
import Conformance.Proofs.Validation.Lines
import Conformance.Proofs.Session.Saved
import Conformance.Proofs.Command.Bound
import Conformance.Proofs.Number.Literal
import Conformance.Proofs.Yaml.Form
import Conformance.Proofs.Yaml.Plain
import Conformance.Proofs.Yaml.Misread
import Conformance.Proofs.Yaml.Flaw
import Conformance.Proofs.Yaml.Scan
import Conformance.Proofs.Yaml.Compose
import Conformance.Proofs.Document.Slip
import Conformance.Proofs.Session.Slips
import Conformance.Proofs.Validation.Below
import Conformance.Proofs.Text.Forms
import Conformance.Proofs.Document.Bytes
import Conformance.Proofs.Pattern.Language
import Conformance.Proofs.Pattern.Matching
import Conformance.Proofs.Pattern.Branches
import Conformance.Proofs.Pattern.Grammar
import Conformance.Proofs.Pattern.Steps
import Conformance.Proofs.Pattern.Lexemes
import Conformance.Proofs.Pattern.Reading
import Conformance.Proofs.Validation.Contains
