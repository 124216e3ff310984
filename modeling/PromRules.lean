import PromRules.Text.Blank
import PromRules.Duration.Basic
import PromRules.Duration.Text
import PromRules.Number.Binary64
import PromRules.Number.Shortest
import PromRules.Number.Positional
import PromRules.Query.Name
import PromRules.Query.Expr
import PromRules.Query.Error
import PromRules.Query.Function
import PromRules.Query.Build
import PromRules.Query.At
import PromRules.Query.Print
import PromRules.Json.Value
import PromRules.Json.Read
import PromRules.Json.Write
import PromRules.Text.CaseData
import PromRules.Text.Case
import PromRules.Yaml.Scalar
import PromRules.Yaml.Emit
import PromRules.Rule.Name
import PromRules.Rule.Error
import PromRules.Rule.Labels
import PromRules.Rule.Realized
import PromRules.Text.EscapeData
import PromRules.Text.Literal
import PromRules.Rule.File
import PromRules.Rule.Bundle
import PromRules.Rule.Manifest
import PromRules.Rule.Decode
import PromRules.Toml.Error
import PromRules.Toml.Item
import PromRules.Config.Basic
import PromRules.Toml.Scan
import PromRules.Toml.Number
import PromRules.Toml.Value
import PromRules.Toml.Document
import PromRules.Config.Read
import PromRules.Cli.Similar
import PromRules.Cli.Grammar
import PromRules.Cli.Example
import PromRules.Cli.Files
import PromRules.Cli.Parse
import PromRules.Cli.Run
import PromRules.Main
import PromRules.Proofs.DurationText
import PromRules.Proofs.BundleRegistry
import PromRules.Proofs.QueryBuild
import PromRules.Proofs.WellFormed
import PromRules.Proofs.Rounding
import PromRules.Proofs.ShortestDigits
import PromRules.Proofs.DecimalReading
import PromRules.Proofs.QueryReader
import PromRules.Proofs.QueryTokens
import PromRules.Proofs.QueryParsing
import PromRules.Proofs.VectorMatching
import PromRules.Proofs.BlankFolding
import PromRules.Proofs.QueryText
import PromRules.Proofs.Manifest
import PromRules.Proofs.RuleFileJson
import PromRules.Proofs.RawText
import PromRules.Proofs.DurationDigits
import PromRules.Proofs.DurationGrammar
import PromRules.Proofs.CallSignature
import PromRules.Proofs.NumberReading
import PromRules.Proofs.QueryLexing
import PromRules.Proofs.QueryRoundTrip
import PromRules.Proofs.AlertNames
import PromRules.Proofs.LabelMatchers
import PromRules.Proofs.OperatorDispatch
import PromRules.Proofs.TextStyles
import PromRules.Proofs.LiteralScan
