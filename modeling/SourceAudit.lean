import SourceAudit.Audit
import SourceAudit.CommandLine.Invocation
import SourceAudit.CommandLine.Options
import SourceAudit.CommandLine.Run
import SourceAudit.Config.Basic
import SourceAudit.Config.Fault
import SourceAudit.Config.Options
import SourceAudit.Diagnostic
import SourceAudit.Directive.Line
import SourceAudit.Directive.RuleList
import SourceAudit.Directive.Scan
import SourceAudit.Disk
import SourceAudit.Git
import SourceAudit.Glob
import SourceAudit.Ignore
import SourceAudit.Language
import SourceAudit.Log
import SourceAudit.LogLevel
import SourceAudit.Main
import SourceAudit.Path
import SourceAudit.Project.Context
import SourceAudit.Project.Discovery
import SourceAudit.Project.Target
import SourceAudit.Project.Workers
import SourceAudit.Proofs.Audit.Accounting
import SourceAudit.Proofs.Audit.Completion
import SourceAudit.Proofs.Audit.Editing
import SourceAudit.Proofs.Audit.Findings
import SourceAudit.Proofs.Audit.Isolation
import SourceAudit.Proofs.Audit.Listing
import SourceAudit.Proofs.Audit.Order
import SourceAudit.Proofs.Audit.Permutation
import SourceAudit.Proofs.Audit.Summary
import SourceAudit.Proofs.CommandLine.Scan
import SourceAudit.Proofs.Config.Editing
import SourceAudit.Proofs.Config.Enabling
import SourceAudit.Proofs.Config.NormalForm
import SourceAudit.Proofs.Config.OptionTables
import SourceAudit.Proofs.Config.Options
import SourceAudit.Proofs.Config.Reading
import SourceAudit.Proofs.Config.RuleTables
import SourceAudit.Proofs.Config.Writing
import SourceAudit.Proofs.Directive.Blocks
import SourceAudit.Proofs.Directive.Breaks
import SourceAudit.Proofs.Directive.Concatenation
import SourceAudit.Proofs.Directive.Faults
import SourceAudit.Proofs.Directive.Form
import SourceAudit.Proofs.Directive.Insertion
import SourceAudit.Proofs.Directive.ListRoundTrip
import SourceAudit.Proofs.Directive.Meaning
import SourceAudit.Proofs.Directive.Quotations
import SourceAudit.Proofs.Directive.Reading
import SourceAudit.Proofs.Directive.RuleList
import SourceAudit.Proofs.Directive.Scan
import SourceAudit.Proofs.Directive.Skipping
import SourceAudit.Proofs.Directive.Spacing
import SourceAudit.Proofs.Directive.WellFormed
import SourceAudit.Proofs.Path
import SourceAudit.Proofs.Project.Discovery
import SourceAudit.Proofs.Project.Ignoring
import SourceAudit.Proofs.Project.Settings
import SourceAudit.Proofs.Project.ShownPath
import SourceAudit.Proofs.Project.Workers
import SourceAudit.Proofs.Project.Writing
import SourceAudit.Proofs.Report.Groups
import SourceAudit.Proofs.Report.Printing
import SourceAudit.Proofs.Report.Reopening
import SourceAudit.Proofs.Report.Rules
import SourceAudit.Proofs.Report.Snippet
import SourceAudit.Proofs.Report.Summary
import SourceAudit.Proofs.Review.Attribution
import SourceAudit.Proofs.Review.Concatenation
import SourceAudit.Proofs.Review.Hunks
import SourceAudit.Proofs.Review.Origin
import SourceAudit.Proofs.Review.Prompts
import SourceAudit.Proofs.Review.Replacement
import SourceAudit.Proofs.Review.Replies
import SourceAudit.Proofs.Review.Sections
import SourceAudit.Proofs.Review.StagedDiff
import SourceAudit.Proofs.Review.Tries
import SourceAudit.Proofs.Rule.Exemption
import SourceAudit.Proofs.Rule.Grounds
import SourceAudit.Proofs.Rule.History
import SourceAudit.Proofs.Rule.Labels
import SourceAudit.Proofs.Rule.Measuring
import SourceAudit.Proofs.Rule.Nesting
import SourceAudit.Proofs.Rule.Registry
import SourceAudit.Proofs.Rule.Relaxing
import SourceAudit.Proofs.Rule.Silencing
import SourceAudit.Proofs.SyntaxTree.Moved
import SourceAudit.Proofs.SyntaxTree.Paths
import SourceAudit.Proofs.SyntaxTree.Visits
import SourceAudit.Proofs.Terminal.Paragraph
import SourceAudit.Proofs.Terminal.Table
import SourceAudit.Proofs.Text.Boundary
import SourceAudit.Proofs.Text.Numbers
import SourceAudit.Proofs.Text.Occurrence
import SourceAudit.Proofs.Text.Pieces
import SourceAudit.Proofs.Text.Small
import SourceAudit.Proofs.Text.Trimming
import SourceAudit.Proofs.Text.Utf8
import SourceAudit.Proofs.Value.Json
import SourceAudit.Proofs.Value.JsonFaults
import SourceAudit.Proofs.Value.JsonLiterals
import SourceAudit.Report.Rules
import SourceAudit.Report.Scan
import SourceAudit.Report.Suppressions
import SourceAudit.Review.Change
import SourceAudit.Review.Exchange
import SourceAudit.Review.Prompt
import SourceAudit.Review.Provider
import SourceAudit.Rule.Basic
import SourceAudit.Rule.Example
import SourceAudit.Rule.NegativeFirst
import SourceAudit.Rule.Plugin
import SourceAudit.Rule.PrometheusLabels
import SourceAudit.Rule.ReactProps
import SourceAudit.Rule.Registered
import SourceAudit.Rule.Registry
import SourceAudit.Suppressions
import SourceAudit.SyntaxTree.Basic
import SourceAudit.SyntaxTree.Kinds
import SourceAudit.Terminal.Markup
import SourceAudit.Terminal.Picture
import SourceAudit.Terminal.Screen
import SourceAudit.Terminal.Table
import SourceAudit.Terminal.Width
import SourceAudit.Terminal.Wrap
import SourceAudit.Text.Blank
import SourceAudit.Text.Digit
import SourceAudit.Text.Letter
import SourceAudit.Text.Lines
import SourceAudit.Text.Order
import SourceAudit.Text.Quoted
import SourceAudit.Text.Ranges
import SourceAudit.Text.Search
import SourceAudit.Text.Utf8
import SourceAudit.Value.Basic
import SourceAudit.Value.Json
import SourceAudit.Value.JsonReader
import SourceAudit.Value.Toml.Document
import SourceAudit.Value.Toml.Reader
import SourceAudit.Value.Toml.Scalar
import SourceAudit.World
