import CommandLine.Binding.Bind
import CommandLine.Binding.Keywords
import CommandLine.Binding.Readings
import CommandLine.Check.Output
import CommandLine.Command.Depth
import CommandLine.Command.Loop
import CommandLine.Command.Move
import CommandLine.Command.Outcome
import CommandLine.Command.Trace
import CommandLine.Component.Act
import CommandLine.Component.BuiltinNames
import CommandLine.Component.Call
import CommandLine.Component.Functions
import CommandLine.Component.Members
import CommandLine.Component.Method.Call
import CommandLine.Component.Method.Documents
import CommandLine.Component.Method.Table
import CommandLine.Component.Spec
import CommandLine.Config.Configuration
import CommandLine.Config.Draft
import CommandLine.Config.Sources
import CommandLine.Error
import CommandLine.Flags
import CommandLine.Literal.Expr
import CommandLine.Literal.Read
import CommandLine.Literal.Source
import CommandLine.Literal.Template
import CommandLine.Literal.Token
import CommandLine.Number.Binary
import CommandLine.Number.Division
import CommandLine.Number.Parse
import CommandLine.Number.Shortest
import CommandLine.Number.Text
import CommandLine.Path
import CommandLine.Program.CommandClass
import CommandLine.Program.Session
import CommandLine.Program.Words
import CommandLine.Proofs.Bindings
import CommandLine.Proofs.CallDepth
import CommandLine.Proofs.Casts
import CommandLine.Proofs.Drafts
import CommandLine.Proofs.Endings
import CommandLine.Proofs.FileOption
import CommandLine.Proofs.Filling
import CommandLine.Proofs.Finishing
import CommandLine.Proofs.FlagWords
import CommandLine.Proofs.GivenText
import CommandLine.Proofs.Grouping
import CommandLine.Proofs.Layers
import CommandLine.Proofs.NextWord
import CommandLine.Proofs.Overriding
import CommandLine.Proofs.Patience
import CommandLine.Proofs.PlainWords
import CommandLine.Proofs.Precedence
import CommandLine.Proofs.Purity
import CommandLine.Proofs.Replay
import CommandLine.Proofs.Rounds
import CommandLine.Proofs.Runs
import CommandLine.Proofs.Scanning
import CommandLine.Proofs.Schemas
import CommandLine.Proofs.Separators
import CommandLine.Proofs.ShellQuoting
import CommandLine.Proofs.SingleOption
import CommandLine.Proofs.Sources
import CommandLine.Proofs.Typing
import CommandLine.Proofs.Ways
import CommandLine.Proofs.WrittenNumbers
import CommandLine.Report.Failure
import CommandLine.Report.Table
import CommandLine.Schema.Block
import CommandLine.Schema.Declare
import CommandLine.Schema.Fields
import CommandLine.Schema.ParamHelp
import CommandLine.Schema.Settings
import CommandLine.Show.Completion
import CommandLine.Show.Help
import CommandLine.Show.Script
import CommandLine.Source.ConfigFile
import CommandLine.Source.EnvFile
import CommandLine.Source.Files
import CommandLine.Source.FirstOf
import CommandLine.Source.Ini
import CommandLine.Source.Search
import CommandLine.Source.Secrets
import CommandLine.Source.Version
import CommandLine.Text.Basic
import CommandLine.Text.CharName
import CommandLine.Text.CharName.From0
import CommandLine.Text.CharName.From1000
import CommandLine.Text.CharName.From10000
import CommandLine.Text.CharName.From13000
import CommandLine.Text.CharName.From1C000
import CommandLine.Text.CharName.From2000
import CommandLine.Text.CharName.From3000
import CommandLine.Text.CharName.Second
import CommandLine.Text.CodeTable
import CommandLine.Text.Compatibility
import CommandLine.Text.Document
import CommandLine.Text.LetterCase
import CommandLine.Text.Pattern
import CommandLine.Text.Quoted
import CommandLine.Text.Search
import CommandLine.Text.ShellWords
import CommandLine.Value.Basic
import CommandLine.Value.Cast
import CommandLine.Value.Equal
import CommandLine.Value.Iterate
import CommandLine.Value.Json
import CommandLine.Value.Kind
import CommandLine.Value.Order
import CommandLine.Value.Show
import CommandLine.Value.Slots
import CommandLine.Proofs.Termination
import CommandLine.Proofs.Clearing
import CommandLine.Proofs.Outcomes
import CommandLine.Proofs.MarkedLine
import CommandLine.Proofs.Parameters
import CommandLine.Proofs.TakenWords
import CommandLine.Proofs.Dispatching
import CommandLine.Proofs.VersionWord
import CommandLine.Proofs.OneFlag
import CommandLine.Proofs.BareFlag
import CommandLine.Proofs.SortedArguments
import CommandLine.Proofs.Spellings
import CommandLine.Proofs.SlotOrder
import CommandLine.Proofs.Grammar
import CommandLine.Proofs.Parsing
import CommandLine.Proofs.Recognition
import CommandLine.Proofs.Denotation
import CommandLine.Proofs.QuotedText
import CommandLine.Proofs.WrittenTokens
import CommandLine.Proofs.WrittenData
import CommandLine.Proofs.PositionalValues
import CommandLine.Proofs.Listings
import CommandLine.Proofs.NamePaths
import CommandLine.Proofs.TupleWords
import CommandLine.Proofs.ScriptChecks
import CommandLine.Proofs.TraceAdditions
import CommandLine.Proofs.BareHelp
import CommandLine.Proofs.Defaults
import CommandLine.Proofs.WrongDefaults
import CommandLine.Proofs.PackageSearch
import CommandLine.Proofs.OrderlyTexts
import CommandLine.Proofs.ProjectVersion
import CommandLine.Proofs.FieldLines
import CommandLine.Proofs.NearestIds
import CommandLine.Proofs.WorkingDirectory
import CommandLine.Proofs.DecorationOrder
import CommandLine.Proofs.FailureReports
import CommandLine.Proofs.SingleLines
import CommandLine.Proofs.CommandTree
import CommandLine.Proofs.LastMark
import CommandLine.Proofs.PathParts
import CommandLine.Proofs.CastAgain
