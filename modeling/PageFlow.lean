import PageFlow.Browser
import PageFlow.Browser.Scripted
import PageFlow.Calendar
import PageFlow.Calendar.Reader
import PageFlow.CommandLine
import PageFlow.CommandLine.Arguments
import PageFlow.CommandLine.Command
import PageFlow.CommandLine.Targets
import PageFlow.Decimal.Binary64
import PageFlow.Decimal.Layout
import PageFlow.Decimal.Rounding
import PageFlow.Decimal.Scientific
import PageFlow.Decimal.Shortest
import PageFlow.Environment
import PageFlow.Fault
import PageFlow.Field
import PageFlow.FileSystem
import PageFlow.Flow
import PageFlow.Flow.Discovery
import PageFlow.Flow.File
import PageFlow.Flow.Reader
import PageFlow.Flow.Template
import PageFlow.History
import PageFlow.History.Document
import PageFlow.History.Table
import PageFlow.Json
import PageFlow.Json.Members
import PageFlow.Json.Reader
import PageFlow.Json.Writer
import PageFlow.Locator
import PageFlow.Log
import PageFlow.Log.Line
import PageFlow.Log.Message
import PageFlow.Main
import PageFlow.Markup
import PageFlow.Markup.Tag
import PageFlow.Outcome
import PageFlow.Pacing
import PageFlow.Path
import PageFlow.Proofs.Act
import PageFlow.Proofs.Frame
import PageFlow.Report
import PageFlow.Report.Document
import PageFlow.Runner
import PageFlow.Runner.Smoke
import PageFlow.Screenshot
import PageFlow.Session
import PageFlow.Session.Rehearsal
import PageFlow.Session.Scripted
import PageFlow.Settings
import PageFlow.Settings.Dotenv
import PageFlow.Settings.Reader
import PageFlow.Step
import PageFlow.Step.Execution
import PageFlow.Step.Label
import PageFlow.Step.Reader
import PageFlow.Step.Tag
import PageFlow.Text.Blank
import PageFlow.Text.Case
import PageFlow.Text.CaseTable
import PageFlow.Text.Digit
import PageFlow.Text.Letter
import PageFlow.Text.Printable
import PageFlow.Text.Quoted
import PageFlow.Text.Ranges
import PageFlow.Text.Search
import PageFlow.Text.Terminal
import PageFlow.Text.Utf8
import PageFlow.Text.Width
import PageFlow.Text.WidthTable
import PageFlow.Value
import PageFlow.Value.Display
import PageFlow.Value.Json
import PageFlow.World
import PageFlow.World.Logging
import PageFlow.World.Page
import PageFlow.Yaml.Content
import PageFlow.Yaml.Cursor
import PageFlow.Yaml.Fault
import PageFlow.Yaml.Label
import PageFlow.Yaml.Lexer
import PageFlow.Yaml.Node
import PageFlow.Yaml.Number
import PageFlow.Yaml.Scalar
import PageFlow.Yaml.Tag
import PageFlow.Yaml.Token
import PageFlow.Proofs.Recital
import PageFlow.Proofs.Script
import PageFlow.Proofs.Execution
import PageFlow.Proofs.Attempts
import PageFlow.Proofs.Files
import PageFlow.Proofs.Ways
import PageFlow.Proofs.Upkeep
import PageFlow.Proofs.FlowFiles
import PageFlow.Proofs.Malformed
import PageFlow.Proofs.Completion
import PageFlow.Proofs.Batch
import PageFlow.Proofs.Commands
import PageFlow.Proofs.Validation
import PageFlow.Proofs.Agreement
import PageFlow.Proofs.Escaping
import PageFlow.Proofs.Templates
import PageFlow.Proofs.Notices
import PageFlow.Proofs.OwnTags
import PageFlow.Proofs.Display
import PageFlow.Proofs.Drift
import PageFlow.Proofs.Pacing
import PageFlow.Proofs.Reporting
import PageFlow.Proofs.Quoting
import PageFlow.Proofs.Selection
import PageFlow.Proofs.Keeping
import PageFlow.Proofs.References
import PageFlow.Proofs.Printing
import PageFlow.Proofs.Course
import PageFlow.Proofs.Returning
import PageFlow.Proofs.Truncation
import PageFlow.Proofs.Turns
import PageFlow.Proofs.Visits
import PageFlow.Proofs.Namesakes
import PageFlow.Proofs.Succession
import PageFlow.Proofs.Ledger
import PageFlow.Proofs.Addresses
import PageFlow.Proofs.Journals
import PageFlow.Proofs.Undertakings
import PageFlow.Proofs.Timestamps
import PageFlow.Proofs.Recollection
import PageFlow.Proofs.Expressions
import PageFlow.Proofs.Splitting
import PageFlow.Proofs.Equality
import PageFlow.Proofs.Substitution
import PageFlow.Proofs.LowerCase
import PageFlow.Proofs.Occurrences
import PageFlow.Proofs.Entries
import PageFlow.Proofs.Verdicts
import PageFlow.Proofs.Moments
import PageFlow.Proofs.PictureNames
import PageFlow.Proofs.Durations
import PageFlow.Proofs.Loading
import PageFlow.Proofs.Misfits
import PageFlow.Proofs.Scanning
import PageFlow.Proofs.Parsing
import PageFlow.Proofs.Building
import PageFlow.Proofs.Rejections
import PageFlow.Proofs.Delays
import PageFlow.Proofs.FileNames
import PageFlow.Proofs.WrittenFiles
import PageFlow.Proofs.Scaffolds
import PageFlow.Proofs.Forms
import PageFlow.Proofs.Inspections
import PageFlow.Proofs.LogContexts
import PageFlow.Proofs.Bindings
import PageFlow.Proofs.Trials
import PageFlow.Proofs.LogGrowth
import PageFlow.Proofs.Warnings
import PageFlow.Proofs.FlowSearch
import PageFlow.Proofs.Transcripts
import PageFlow.Proofs.Releases
