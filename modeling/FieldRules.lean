import FieldRules.Json.Text
import FieldRules.Path
import FieldRules.Proofs.Address.HexCase
import FieldRules.Proofs.Date.Groups
import FieldRules.Proofs.Date.Timestamp
import FieldRules.Proofs.Json.RoundTrip
import FieldRules.Proofs.Number.Scanned
import FieldRules.Proofs.Params.Append
import FieldRules.Proofs.Params.Filled
import FieldRules.Proofs.Params.Interleaving
import FieldRules.Proofs.Path.Beside
import FieldRules.Proofs.Registry.Runs
import FieldRules.Proofs.Report.RoundTrip
import FieldRules.Proofs.Request.MediaType
import FieldRules.Proofs.Request.Query
import FieldRules.Proofs.RuleSet.Replacement
import FieldRules.Proofs.RuleSet.RoundTrip
import FieldRules.Proofs.Rules.Bounds
import FieldRules.Proofs.Rules.Choice
import FieldRules.Proofs.Rules.Indexed
import FieldRules.Proofs.Rules.IntegerOptions
import FieldRules.Proofs.Rules.Interchange
import FieldRules.Proofs.Validation.OnlyDefaults
import FieldRules.Proofs.Validation.Success
import FieldRules.Report
import FieldRules.Request.Basic
import FieldRules.RuleSet.Basic
import FieldRules.Rules.Builtin
import FieldRules.Validator
