import Scaffold.Cli.Arguments
import Scaffold.Cli.EnvFile
import Scaffold.Cli.FieldPattern
import Scaffold.Cli.Filter
import Scaffold.Cli.Listing
import Scaffold.Cli.Session
import Scaffold.Cli.Verbosity
import Scaffold.Decimal.Binary64
import Scaffold.Dependency
import Scaffold.Error
import Scaffold.Expr
import Scaffold.Host
import Scaffold.Library
import Scaffold.Machine.Basic
import Scaffold.Machine.Calendar
import Scaffold.Machine.Files
import Scaffold.Machine.Floating
import Scaffold.Machine.Format
import Scaffold.Machine.Glob
import Scaffold.Machine.Host
import Scaffold.Machine.Moment
import Scaffold.Machine.Number
import Scaffold.Machine.Octets
import Scaffold.Machine.Ordered.Basic
import Scaffold.Machine.Ordered.Fault
import Scaffold.Machine.Ordered.Match
import Scaffold.Machine.Ordered.Reader
import Scaffold.Machine.Ordered.Set
import Scaffold.Machine.Regex
import Scaffold.Machine.Regex.Match
import Scaffold.Machine.Shell.Arithmetic
import Scaffold.Machine.Shell.Builtin.Basic
import Scaffold.Machine.Shell.Builtin.Lookup
import Scaffold.Machine.Shell.Builtin.Place
import Scaffold.Machine.Shell.Builtin.Print
import Scaffold.Machine.Shell.Builtin.Process
import Scaffold.Machine.Shell.Builtin.Variables
import Scaffold.Machine.Shell.Condition
import Scaffold.Machine.Shell.Evaluate
import Scaffold.Machine.Shell.Expand
import Scaffold.Machine.Shell.Grammar
import Scaffold.Machine.Shell.Program
import Scaffold.Machine.Shell.Reader
import Scaffold.Machine.Shell.Redirection
import Scaffold.Machine.Shell.Script
import Scaffold.Machine.Shell.Session
import Scaffold.Machine.Shell.Signal
import Scaffold.Machine.Shell.Word
import Scaffold.Machine.Tool
import Scaffold.Machine.Tool.Basic
import Scaffold.Machine.Tool.Cat
import Scaffold.Machine.Tool.Copy
import Scaffold.Machine.Tool.Copy.Settings
import Scaffold.Machine.Tool.Count
import Scaffold.Machine.Tool.Create
import Scaffold.Machine.Tool.Head
import Scaffold.Machine.Tool.Help
import Scaffold.Machine.Tool.Judge
import Scaffold.Machine.Tool.Names
import Scaffold.Machine.Tool.Options
import Scaffold.Machine.Tool.Print
import Scaffold.Machine.Tool.Quote
import Scaffold.Machine.Tool.Search
import Scaffold.Machine.Tool.Search.Matcher
import Scaffold.Machine.Tool.Search.Palette
import Scaffold.Machine.Tool.Search.Settings
import Scaffold.Machine.Tool.Translate
import Scaffold.Machine.Zone
import Scaffold.Main
import Scaffold.Marker
import Scaffold.Path
import Scaffold.Run.Call
import Scaffold.Run.Collect
import Scaffold.Run.Context
import Scaffold.Run.Evaluate
import Scaffold.Run.Github
import Scaffold.Run.Path
import Scaffold.Run.Project
import Scaffold.Run.Registry
import Scaffold.Run.Section
import Scaffold.Run.Shell
import Scaffold.Run.Walk
import Scaffold.Script
import Scaffold.Section
import Scaffold.Table
import Scaffold.Template
import Scaffold.Text.Alphanumeric
import Scaffold.Text.Basic
import Scaffold.Text.Utf8
import Scaffold.Text.Visible
import Scaffold.Text.Word
import Scaffold.Value
import Scaffold.Yaml.Block
import Scaffold.Yaml.Cursor
import Scaffold.Yaml.Decode
import Scaffold.Yaml.Lexeme
import Scaffold.Yaml.Node
import Scaffold.Yaml.Scalar
import Scaffold.Yaml.Token
import Scaffold.Yaml.Writable
import Scaffold.Proofs.Agreement
import Scaffold.Proofs.Blocks
import Scaffold.Proofs.Bound
import Scaffold.Proofs.CallStack
import Scaffold.Proofs.Cancellation
import Scaffold.Proofs.Collect
import Scaffold.Proofs.Command
import Scaffold.Proofs.Confined
import Scaffold.Proofs.Ending
import Scaffold.Proofs.Evaluation
import Scaffold.Proofs.Frame
import Scaffold.Proofs.History
import Scaffold.Proofs.Marker
import Scaffold.Proofs.Occurrence
import Scaffold.Proofs.Pairing
import Scaffold.Proofs.Reading
import Scaffold.Proofs.Recursion
import Scaffold.Proofs.Reinstall
import Scaffold.Proofs.Registration
import Scaffold.Proofs.Related
import Scaffold.Proofs.Resolved
import Scaffold.Proofs.Runners
import Scaffold.Proofs.Unknown
import Scaffold.Proofs.Unmentioned
import Scaffold.Proofs.Validation
import Scaffold.Proofs.Walk
import Scaffold.Proofs.DependencyCall
import Scaffold.Proofs.RoundTrip
import Scaffold.Proofs.Loading
import Scaffold.Proofs.Spelling
import Scaffold.Proofs.Expression
import Scaffold.Proofs.Header
import Scaffold.Proofs.PairLoop
import Scaffold.Proofs.InvokedPath
import Scaffold.Proofs.Pieces
import Scaffold.Proofs.HeaderStyle
import Scaffold.Proofs.Substitution
import Scaffold.Proofs.FileReference
import Scaffold.Proofs.Formatting
import Scaffold.Proofs.Insertion
import Scaffold.Proofs.Preparation
import Scaffold.Proofs.Assignment
import Scaffold.Proofs.InlineDependencies
import Scaffold.Proofs.Faults
import Scaffold.Proofs.Negation
import Scaffold.Proofs.Refusal
