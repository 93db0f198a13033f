import RpcMetrics.Catalog
import RpcMetrics.Cli.Arguments
import RpcMetrics.Cli.Output
import RpcMetrics.Cli.Program
import RpcMetrics.Cli.Switch
import RpcMetrics.Data.Dictionary
import RpcMetrics.Data.NameSet
import RpcMetrics.Decimal.Binary64
import RpcMetrics.Decimal.Integer
import RpcMetrics.Decimal.Layout
import RpcMetrics.Decimal.Nearest
import RpcMetrics.Decimal.Shortest
import RpcMetrics.Discovery.Fetch
import RpcMetrics.Discovery.Probe
import RpcMetrics.Discovery.Schedule
import RpcMetrics.Duration.Basic
import RpcMetrics.Duration.Text
import RpcMetrics.Environment.Basic
import RpcMetrics.Environment.File
import RpcMetrics.Environment.Line
import RpcMetrics.Expression.Grammar
import RpcMetrics.Expression.Scan
import RpcMetrics.Expression.Token
import RpcMetrics.Failure
import RpcMetrics.Filter
import RpcMetrics.Group
import RpcMetrics.Http.Domain
import RpcMetrics.Http.Exchange
import RpcMetrics.Http.Host
import RpcMetrics.Http.Message
import RpcMetrics.Http.Status
import RpcMetrics.Http.Url
import RpcMetrics.Json.Basic
import RpcMetrics.Json.Number
import RpcMetrics.Json.Parser
import RpcMetrics.Json.Printer
import RpcMetrics.Json.Record
import RpcMetrics.Json.Token
import RpcMetrics.Log.Directive
import RpcMetrics.Log.Filter
import RpcMetrics.Log.Layout
import RpcMetrics.Log.Record
import RpcMetrics.Log.ValueTest
import RpcMetrics.Main
import RpcMetrics.Params
import RpcMetrics.Pattern.CharClass
import RpcMetrics.Pattern.Edge
import RpcMetrics.Pattern.Form
import RpcMetrics.Pattern.Machine
import RpcMetrics.Pattern.Meaning
import RpcMetrics.Pattern.Parser
import RpcMetrics.Pattern.Regex
import RpcMetrics.Proofs.ByteOrder
import RpcMetrics.Proofs.CalculationParts
import RpcMetrics.Proofs.CalculationRuns
import RpcMetrics.Proofs.CommandActions
import RpcMetrics.Proofs.CommandRefusals
import RpcMetrics.Proofs.DiscoveredValues
import RpcMetrics.Proofs.DiscoveryTimeline
import RpcMetrics.Proofs.DiscoveryTraffic
import RpcMetrics.Proofs.DraftCalls
import RpcMetrics.Proofs.DraftChecks
import RpcMetrics.Proofs.DraftCompletion
import RpcMetrics.Proofs.ExpressionFaults
import RpcMetrics.Proofs.ExpressionGrammar
import RpcMetrics.Proofs.ExpressionValue
import RpcMetrics.Proofs.FilterSpelling
import RpcMetrics.Proofs.FiniteDoubles
import RpcMetrics.Proofs.JsonNumbers
import RpcMetrics.Proofs.JsonText
import RpcMetrics.Proofs.LoneSubQuery
import RpcMetrics.Proofs.ProbeOutcomes
import RpcMetrics.Proofs.QueryRoundTrip
import RpcMetrics.Proofs.RankingSelection
import RpcMetrics.Proofs.RateMeaning
import RpcMetrics.Proofs.RepeatedKeys
import RpcMetrics.Proofs.StoreAnswers
import RpcMetrics.Proofs.StoreBoundary
import RpcMetrics.Proofs.SubQueryAlignment
import RpcMetrics.Proofs.TableSeparation
import RpcMetrics.Proofs.TemporalityDetection
import RpcMetrics.Proofs.WindowBounds
import RpcMetrics.Proofs.WindowFormula
import RpcMetrics.Proofs.WrittenDigits
import RpcMetrics.Query.Codec
import RpcMetrics.Query.Draft
import RpcMetrics.Query.Model
import RpcMetrics.Query.Row
import RpcMetrics.Run
import RpcMetrics.Session.Basic
import RpcMetrics.Session.Script
import RpcMetrics.Settings.Basic
import RpcMetrics.Settings.Codec
import RpcMetrics.Settings.Layers
import RpcMetrics.Table
import RpcMetrics.Text.Blank
import RpcMetrics.Text.CaseTable
import RpcMetrics.Text.CodeRange
import RpcMetrics.Text.Cut
import RpcMetrics.Text.DecimalDigit
import RpcMetrics.Text.Direction
import RpcMetrics.Text.DirectionTable
import RpcMetrics.Text.DomainTable
import RpcMetrics.Text.Letter
import RpcMetrics.Text.LetterCase
import RpcMetrics.Text.LetterOrDigit
import RpcMetrics.Text.Punycode
import RpcMetrics.Text.Quoted
import RpcMetrics.Text.Unprintable
import RpcMetrics.Toml.Document
import RpcMetrics.Toml.Moment
import RpcMetrics.Toml.Scalar
import RpcMetrics.Toml.Table
import RpcMetrics.Toml.Text
import RpcMetrics.Toml.Value
import RpcMetrics.Window
