import BundleForge.Action
import BundleForge.Bridge.Engine
import BundleForge.Bridge.Fault
import BundleForge.Bridge.Message
import BundleForge.Bridge.Options
import BundleForge.Bridge.Process
import BundleForge.Bridge.Session
import BundleForge.Build.Builder
import BundleForge.Command
import BundleForge.CommandLine.Arguments
import BundleForge.CommandLine.Run
import BundleForge.CommandLine.Usage
import BundleForge.Configuration.Basic
import BundleForge.Configuration.File
import BundleForge.Console
import BundleForge.Entries
import BundleForge.Event
import BundleForge.Hardening.Obfuscator
import BundleForge.Hardening.Pass
import BundleForge.Hardening.Profile
import BundleForge.Json.Access
import BundleForge.Json.Basic
import BundleForge.Json.Reader
import BundleForge.Json.Writer
import BundleForge.Main
import BundleForge.Misfit
import BundleForge.Number.Binary64
import BundleForge.Number.DecimalText
import BundleForge.Number.IntegerText
import BundleForge.Number.RealText
import BundleForge.Number.Round
import BundleForge.Path
import BundleForge.Proofs.Bridge.Build
import BundleForge.Proofs.Bridge.Contained
import BundleForge.Proofs.Bridge.Escapes
import BundleForge.Proofs.Bridge.ExitCode
import BundleForge.Proofs.Bridge.Fit
import BundleForge.Proofs.Bridge.Recovery
import BundleForge.Proofs.Bridge.Replies
import BundleForge.Proofs.Bridge.Stubs
import BundleForge.Proofs.Bridge.Turn
import BundleForge.Proofs.Bridge.Upkeep
import BundleForge.Proofs.Build.Attempt
import BundleForge.Proofs.Build.Isolation
import BundleForge.Proofs.Build.Reporting
import BundleForge.Proofs.Build.Run
import BundleForge.Proofs.Build.Sound
import BundleForge.Proofs.Build.Watching
import BundleForge.Proofs.Hardening.Contained
import BundleForge.Proofs.Hardening.Null
import BundleForge.Proofs.Hardening.Run
import BundleForge.Proofs.Hardening.Script
import BundleForge.Proofs.Hardening.Sweep
import BundleForge.Proofs.Hardening.Visits
import BundleForge.Proofs.Hardening.Walk
import BundleForge.Proofs.Number.Range
import BundleForge.Proofs.Report.Sizes
import BundleForge.Proofs.Talks
import BundleForge.Proofs.Tree.Alike
import BundleForge.Proofs.Tree.Edit
import BundleForge.Proofs.Tree.Links
import BundleForge.Proofs.Tree.Outline
import BundleForge.Proofs.Tree.Place
import BundleForge.Proofs.Tree.Route
import BundleForge.Proofs.Tree.Within
import BundleForge.Report.Basic
import BundleForge.Report.Importers
import BundleForge.Report.Size
import BundleForge.Resolution.Builtin
import BundleForge.Resolution.Package
import BundleForge.Resolution.Policy
import BundleForge.Setting.Basic
import BundleForge.Setting.Moment
import BundleForge.Setting.Scalar
import BundleForge.Setting.Slots
import BundleForge.Shell.Argument
import BundleForge.Shell.Bracket
import BundleForge.Shell.Builtin.Asking
import BundleForge.Shell.Builtin.Basic
import BundleForge.Shell.Builtin.Flow
import BundleForge.Shell.Builtin.Jobs
import BundleForge.Shell.Builtin.Moving
import BundleForge.Shell.Builtin.Naming
import BundleForge.Shell.Builtin.Printing
import BundleForge.Shell.Builtin.Reading
import BundleForge.Shell.Builtin.Signals
import BundleForge.Shell.Builtin.Variables
import BundleForge.Shell.Command
import BundleForge.Shell.Dialogue
import BundleForge.Shell.Edit.Basic
import BundleForge.Shell.Edit.Reader
import BundleForge.Shell.Edit.Run
import BundleForge.Shell.Escape
import BundleForge.Shell.Execution
import BundleForge.Shell.Expansion.Mark
import BundleForge.Shell.Expansion.Paths
import BundleForge.Shell.Expansion.Pattern
import BundleForge.Shell.Expansion.Word
import BundleForge.Shell.Filtering.Arrange
import BundleForge.Shell.Filtering.Count
import BundleForge.Shell.Filtering.Cut
import BundleForge.Shell.Filtering.Dump
import BundleForge.Shell.Filtering.Exchange
import BundleForge.Shell.Filtering.Lines
import BundleForge.Shell.Filtering.Search
import BundleForge.Shell.Filtering.Sort
import BundleForge.Shell.Format
import BundleForge.Shell.Machine
import BundleForge.Shell.Numeral
import BundleForge.Shell.Octets
import BundleForge.Shell.Options
import BundleForge.Shell.Place
import BundleForge.Shell.Process
import BundleForge.Shell.Program
import BundleForge.Shell.Question
import BundleForge.Shell.Reader.Basic
import BundleForge.Shell.Reader.Marks
import BundleForge.Shell.Reader.Script
import BundleForge.Shell.Redirecting
import BundleForge.Shell.Regular.Basic
import BundleForge.Shell.Regular.Reader
import BundleForge.Shell.Session
import BundleForge.Shell.Showing
import BundleForge.Shell.State
import BundleForge.Shell.Stream
import BundleForge.Shell.Sum
import BundleForge.Shell.Surroundings
import BundleForge.Shell.System
import BundleForge.Shell.Utility
import BundleForge.Shell.Utility.Carrying
import BundleForge.Shell.Utility.Editing
import BundleForge.Shell.Utility.Evaluation
import BundleForge.Shell.Utility.Files
import BundleForge.Shell.Utility.Filters
import BundleForge.Shell.Utility.Input
import BundleForge.Shell.Utility.Modes
import BundleForge.Shell.Utility.Searching
import BundleForge.Shell.Variable
import BundleForge.Target.Basic
import BundleForge.Target.Flags
import BundleForge.Target.Override
import BundleForge.Text.Blank
import BundleForge.Text.Lower
import BundleForge.Text.Newline
import BundleForge.Text.Printable
import BundleForge.Text.Quoted
import BundleForge.Text.ShellWord
import BundleForge.Text.Spelled
import BundleForge.Text.Supply
import BundleForge.Text.Utf8
import BundleForge.Toml.Document
import BundleForge.Toml.Value
import BundleForge.Tree.Basic
import BundleForge.Tree.Fault
import BundleForge.Yaml.Cell
import BundleForge.Yaml.Cursor
import BundleForge.Yaml.Merge
import BundleForge.Yaml.Node
import BundleForge.Yaml.Plain
import BundleForge.Yaml.Scalar
import BundleForge.Yaml.Stream
import BundleForge.Yaml.Token
import BundleForge.Yaml.Unfolding
import BundleForge.Yaml.Value
import BundleForge.Proofs.CommandLine.Flags
import BundleForge.Proofs.Resolution.External
import BundleForge.Proofs.Resolution.Nearest
import BundleForge.Proofs.Resolution.Precedence
import BundleForge.Proofs.Configuration.Settled
import BundleForge.Proofs.Configuration.Spellings
import BundleForge.Proofs.Action
import BundleForge.Proofs.Build.Kept
import BundleForge.Proofs.CommandLine.Status
import BundleForge.Proofs.Bridge.Levels
import BundleForge.Proofs.Build.Levels
import BundleForge.Proofs.Build.OutputDirectory
import BundleForge.Proofs.Target.Merging
import BundleForge.Proofs.Report.Chains
import BundleForge.Proofs.Hardening.Ends
import BundleForge.Proofs.Hardening.Again
import BundleForge.Proofs.Command
import BundleForge.Proofs.Report.Amounts
import BundleForge.Proofs.Target.Validity
