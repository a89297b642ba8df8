import RouteAudit.Authorization.Middleware
import RouteAudit.Authorization.Record
import RouteAudit.Authorization.Vocabulary
import RouteAudit.Command.Arguments
import RouteAudit.Command.Options
import RouteAudit.Command.Outcome
import RouteAudit.Command.Run
import RouteAudit.Config.File
import RouteAudit.Config.Load
import RouteAudit.Config.Settings
import RouteAudit.Config.Suppression
import RouteAudit.Data.Assoc
import RouteAudit.Data.Calendar
import RouteAudit.Data.Display
import RouteAudit.Data.Json.Read
import RouteAudit.Data.Json.Write
import RouteAudit.Data.Value
import RouteAudit.Data.Yaml.Node
import RouteAudit.Data.Yaml.Plain
import RouteAudit.Data.Yaml.Read
import RouteAudit.Data.Yaml.Scalar
import RouteAudit.Data.Yaml.Source
import RouteAudit.Data.Yaml.Token
import RouteAudit.Endpoint
import RouteAudit.Files.Path
import RouteAudit.Files.Select
import RouteAudit.Files.Tree
import RouteAudit.Finding
import RouteAudit.Go.Import
import RouteAudit.Go.Lexer
import RouteAudit.Go.Literal
import RouteAudit.Go.Name
import RouteAudit.Go.Node
import RouteAudit.Go.Parse.Basic
import RouteAudit.Go.Parse.Declaration
import RouteAudit.Go.Parse.Expression
import RouteAudit.Go.Parse.File
import RouteAudit.Go.Parse.Statement
import RouteAudit.Go.Parse.Type
import RouteAudit.Go.Token
import RouteAudit.Http.Exposure
import RouteAudit.Http.Framework
import RouteAudit.Http.Method
import RouteAudit.Http.Severity
import RouteAudit.Main
import RouteAudit.Number.Binary64
import RouteAudit.Number.Numeral
import RouteAudit.Number.Shortest
import RouteAudit.Pattern.Glob
import RouteAudit.Pattern.Regex.Basic
import RouteAudit.Pattern.Regex.Match
import RouteAudit.Pattern.Regex.Parse
import RouteAudit.Proofs.AssignedRun
import RouteAudit.Proofs.AuthPatterns
import RouteAudit.Proofs.CallReading
import RouteAudit.Proofs.ChainExposure
import RouteAudit.Proofs.ClosureScope
import RouteAudit.Proofs.ConfigFaults
import RouteAudit.Proofs.DiscoveryOrder
import RouteAudit.Proofs.ExitCode
import RouteAudit.Proofs.Extraction
import RouteAudit.Proofs.FailOpen
import RouteAudit.Proofs.Fallible
import RouteAudit.Proofs.FileAccess
import RouteAudit.Proofs.FilePruning
import RouteAudit.Proofs.FileSelection
import RouteAudit.Proofs.FindingReview
import RouteAudit.Proofs.FloatRange
import RouteAudit.Proofs.GivenOptions
import RouteAudit.Proofs.GlobMatching
import RouteAudit.Proofs.GroupChain
import RouteAudit.Proofs.GroupConflict
import RouteAudit.Proofs.GroupTable
import RouteAudit.Proofs.HandleKeys
import RouteAudit.Proofs.HandlerWrappers
import RouteAudit.Proofs.InlineCuts
import RouteAudit.Proofs.InlineGroups
import RouteAudit.Proofs.JoinedText
import RouteAudit.Proofs.LiteralSpelling
import RouteAudit.Proofs.MergeStrength
import RouteAudit.Proofs.ParallelScan
import RouteAudit.Proofs.Parentheses
import RouteAudit.Proofs.PrefixJoin
import RouteAudit.Proofs.ProjectScan
import RouteAudit.Proofs.RecordContent
import RouteAudit.Proofs.RecordForm
import RouteAudit.Proofs.ReportLayout
import RouteAudit.Proofs.ReportTotals
import RouteAudit.Proofs.RoutePattern
import RouteAudit.Proofs.RuleCoverage
import RouteAudit.Proofs.SarifLocation
import RouteAudit.Proofs.SettingsReload
import RouteAudit.Proofs.SharedCalls
import RouteAudit.Proofs.SortedReport
import RouteAudit.Proofs.SourceOrder
import RouteAudit.Proofs.StandardFiles
import RouteAudit.Proofs.SyntaxTree
import RouteAudit.Proofs.UseFrame
import RouteAudit.Proofs.UseScope
import RouteAudit.Proofs.Utf8Decoding
import RouteAudit.Proofs.VerbCalls
import RouteAudit.Proofs.WalkOrder
import RouteAudit.Proofs.WrapperLayers
import RouteAudit.Report.Filter
import RouteAudit.Report.Format
import RouteAudit.Report.Group
import RouteAudit.Report.Item
import RouteAudit.Report.Json
import RouteAudit.Report.Markdown
import RouteAudit.Report.Plain
import RouteAudit.Report.Record
import RouteAudit.Report.Sarif
import RouteAudit.Report.Terminal
import RouteAudit.Routing.Argument
import RouteAudit.Routing.Detector
import RouteAudit.Routing.Grammar
import RouteAudit.Routing.Group
import RouteAudit.Rule.Basic
import RouteAudit.Rule.Engine
import RouteAudit.Scan.Discovery
import RouteAudit.Scan.Journal
import RouteAudit.Scan.Project
import RouteAudit.Scan.Result
import RouteAudit.Scan.Schedule
import RouteAudit.Scan.Source
import RouteAudit.Text.Basic
import RouteAudit.Text.Blank
import RouteAudit.Text.Case
import RouteAudit.Text.CaseTable
import RouteAudit.Text.CharacterName
import RouteAudit.Text.CodeUnit
import RouteAudit.Text.Digit
import RouteAudit.Text.Letter
import RouteAudit.Text.Printable
import RouteAudit.Text.Quoted
import RouteAudit.Text.Range
import RouteAudit.Text.Utf8
