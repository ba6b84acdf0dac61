import SchemaLint.Binary64.Basic
import SchemaLint.Binary64.Shortest
import SchemaLint.CommandLine
import SchemaLint.Compiler.Command
import SchemaLint.Compiler.Output
import SchemaLint.Config.Basic
import SchemaLint.Config.Error
import SchemaLint.Config.Reader
import SchemaLint.Discovery.Basic
import SchemaLint.Discovery.Exclusion
import SchemaLint.Discovery.Query
import SchemaLint.Discovery.Resolver
import SchemaLint.FileTree.Basic
import SchemaLint.FileTree.Description
import SchemaLint.FileTree.Launch
import SchemaLint.FileTree.Lookup
import SchemaLint.FileTree.SchemaFiles
import SchemaLint.Issue.Basic
import SchemaLint.Issue.Document
import SchemaLint.Issue.Feed
import SchemaLint.Issue.Stream
import SchemaLint.Json.Basic
import SchemaLint.Json.Printer
import SchemaLint.Json.Reader
import SchemaLint.Json.Token
import SchemaLint.Kind
import SchemaLint.Line.Basic
import SchemaLint.Line.Classify
import SchemaLint.Line.Compile
import SchemaLint.Line.Internal
import SchemaLint.Line.Style
import SchemaLint.LintError
import SchemaLint.Main
import SchemaLint.Path
import SchemaLint.Pattern.Basic
import SchemaLint.Pattern.CharSet
import SchemaLint.Pattern.Dialect
import SchemaLint.Pattern.Engine
import SchemaLint.Pattern.Matcher
import SchemaLint.Pattern.Reader
import SchemaLint.Pattern.WordChar
import SchemaLint.Process
import SchemaLint.Proofs.CommandLine
import SchemaLint.Proofs.Compiler.Command
import SchemaLint.Proofs.Compiler.Output
import SchemaLint.Proofs.Compiler.Split
import SchemaLint.Proofs.Compiler.Streams
import SchemaLint.Proofs.Config.Interpreted
import SchemaLint.Proofs.Config.Settings
import SchemaLint.Proofs.Discovery.Exact
import SchemaLint.Proofs.Discovery.Exclusion
import SchemaLint.Proofs.Discovery.Find
import SchemaLint.Proofs.Discovery.Location
import SchemaLint.Proofs.Discovery.Log
import SchemaLint.Proofs.Discovery.Memory
import SchemaLint.Proofs.Discovery.Root
import SchemaLint.Proofs.FileTree.Walk
import SchemaLint.Proofs.Issue.Document
import SchemaLint.Proofs.Issue.Feed
import SchemaLint.Proofs.Issue.Stream
import SchemaLint.Proofs.Json.Members
import SchemaLint.Proofs.Json.RoundTrip
import SchemaLint.Proofs.Json.Token
import SchemaLint.Proofs.Json.Written
import SchemaLint.Proofs.Line.Basic
import SchemaLint.Proofs.Line.Classifier
import SchemaLint.Proofs.Line.Classify
import SchemaLint.Proofs.Line.Compile
import SchemaLint.Proofs.Line.Internal
import SchemaLint.Proofs.Line.Position
import SchemaLint.Proofs.Line.Recovery
import SchemaLint.Proofs.Line.Style
import SchemaLint.Proofs.Line.Warning
import SchemaLint.Proofs.Line.WellFormed
import SchemaLint.Proofs.Path.Absolute
import SchemaLint.Proofs.Path.Components
import SchemaLint.Proofs.Path.Workspace
import SchemaLint.Proofs.Pattern.Matcher
import SchemaLint.Proofs.Pattern.Reader
import SchemaLint.Proofs.Record.Attribution
import SchemaLint.Proofs.Record.Identity
import SchemaLint.Proofs.Record.Wording
import SchemaLint.Proofs.Run.FileCount
import SchemaLint.Proofs.Run.Idle
import SchemaLint.Proofs.Run.Pass
import SchemaLint.Proofs.Run.Phases
import SchemaLint.Proofs.Run.Reconciliation
import SchemaLint.Proofs.Run.Resolved
import SchemaLint.Proofs.Session
import SchemaLint.Proofs.Template
import SchemaLint.Proofs.Template.Layout
import SchemaLint.Proofs.Template.Substitution
import SchemaLint.Proofs.Text.Blank
import SchemaLint.Proofs.Text.Decoding
import SchemaLint.Proofs.Text.Lines
import SchemaLint.Proofs.Text.Numeral
import SchemaLint.Proofs.Text.Replace
import SchemaLint.Proofs.Text.Search
import SchemaLint.Proofs.Text.Segments
import SchemaLint.Proofs.Text.Spelling
import SchemaLint.Proofs.Text.Unique
import SchemaLint.Proofs.Text.Utf8
import SchemaLint.Proofs.Text.Words
import SchemaLint.Record
import SchemaLint.Run.Basic
import SchemaLint.Run.Event
import SchemaLint.Run.Logged
import SchemaLint.Run.Phase
import SchemaLint.Run.Terminal
import SchemaLint.Session
import SchemaLint.Sha256
import SchemaLint.SystemError
import SchemaLint.Template
import SchemaLint.Text.Basic
import SchemaLint.Text.Blank
import SchemaLint.Text.CaseFold
import SchemaLint.Text.Lines
import SchemaLint.Text.LowerCase
import SchemaLint.Text.Numeral
import SchemaLint.Text.Quoted
import SchemaLint.Text.Utf8
import SchemaLint.Proofs.Pattern.Dialect
