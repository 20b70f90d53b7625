import Vetting.Address.Email
import Vetting.Chain.Configured
import Vetting.Chain.Fields
import Vetting.Log.Sink
import Vetting.Report
import Vetting.Template.Members
import Vetting.Yaml.Document
import Vetting.Proofs.Expression.RoundTrip
import Vetting.Proofs.Registry.Replay
import Vetting.Proofs.Chain.Isolation
import Vetting.Proofs.Chain.Parallel
import Vetting.Proofs.Chain.Composition
import Vetting.Proofs.Rules.Discreet
import Vetting.Proofs.Chain.FirstFailure
import Vetting.Proofs.Rules.Contract
import Vetting.Proofs.Rules.Reserve
import Vetting.Proofs.Chain.Application
import Vetting.Proofs.Chain.Account
import Vetting.Proofs.Chain.Queries
import Vetting.Proofs.Chain.Sensitivity
import Vetting.Proofs.Chain.Secrecy
import Vetting.Proofs.Place.Descent
import Vetting.Proofs.Place.RoundTrip
import Vetting.Proofs.Place.Commutation
import Vetting.Proofs.Place.Frame
import Vetting.Proofs.Chain.Independence
import Vetting.Proofs.Chain.Course
import Vetting.Proofs.Place.Rejection
import Vetting.Proofs.Place.Search
import Vetting.Proofs.Place.Replacement
import Vetting.Proofs.Place.Spelling
import Vetting.Proofs.Chain.Untouched
import Vetting.Proofs.Chain.Surplus
import Vetting.Proofs.Chain.Unknown
import Vetting.Proofs.Number.Nearest
import Vetting.Proofs.Number.Order
import Vetting.Proofs.Value.Likeness
import Vetting.Proofs.Value.Symmetry
import Vetting.Proofs.Value.Faltering
import Vetting.Proofs.Value.Precedence
import Vetting.Proofs.Value.Comparison
import Vetting.Proofs.Value.Unordered
import Vetting.Proofs.Value.Loose
import Vetting.Proofs.Value.Integers
import Vetting.Proofs.Rules.Comparison
import Vetting.Proofs.Rules.Answers
import Vetting.Proofs.Chain.Comparing
import Vetting.Proofs.Number.Closest
import Vetting.Proofs.Number.Numeral
import Vetting.Proofs.Value.Leading
import Vetting.Proofs.Value.Written
import Vetting.Proofs.Value.Integral
import Vetting.Proofs.Number.Places
import Vetting.Proofs.Value.Floating
import Vetting.Proofs.Rules.Rounding
import Vetting.Proofs.Chain.Rounding
import Vetting.Proofs.Json.Overlong
import Vetting.Proofs.Chain.Encoding
import Vetting.Proofs.Rules.Sizing
import Vetting.Proofs.Chain.Sizing
import Vetting.Proofs.CheckDigit.Luhn
import Vetting.Proofs.CheckDigit.Taxpayer
import Vetting.Proofs.CheckDigit.Canonical
import Vetting.Proofs.Number.Halves
import Vetting.Proofs.Rules.Precision
import Vetting.Proofs.Chain.Document
import Vetting.Proofs.Address.Domain
import Vetting.Proofs.Catalog.Loading
import Vetting.Proofs.Pattern.Complement
import Vetting.Proofs.Pattern.Removal
import Vetting.Proofs.Rules.Extraction
import Vetting.Proofs.Pattern.Occurrence
import Vetting.Proofs.Rules.Substitution
import Vetting.Proofs.Pattern.Splice
import Vetting.Proofs.Rules.Lettered
import Vetting.Proofs.Template.Missing
import Vetting.Proofs.Chain.Truncation
import Vetting.Proofs.Rules.DecimalText
import Vetting.Proofs.Chain.DecimalText
import Vetting.Proofs.Chain.Judging
import Vetting.Proofs.Text.Case
import Vetting.Proofs.Config.Environment
import Vetting.Proofs.Pattern.Taking
import Vetting.Proofs.Pattern.Cut
import Vetting.Proofs.Report.Forms
import Vetting.Proofs.Report.Redaction
import Vetting.Proofs.Report.Context
