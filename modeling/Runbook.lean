import Runbook.Apply
import Runbook.ChangeSet
import Runbook.ChangeSet.History
import Runbook.Changelog.Basic
import Runbook.Changelog.Builder
import Runbook.Changelog.ChangeSets
import Runbook.Changelog.Document
import Runbook.Changelog.Validation
import Runbook.Checksum.Batch
import Runbook.Checksum.Blake3
import Runbook.Checksum.Digest
import Runbook.Checksum.Entry
import Runbook.Checksum.FileDigest
import Runbook.Checksum.Pool
import Runbook.Checksum.Session
import Runbook.Cli.Arguments
import Runbook.Cli.Invocation
import Runbook.Cli.LogFilter
import Runbook.Cli.Report
import Runbook.Command
import Runbook.Command.Usage
import Runbook.Drainer.Basic
import Runbook.Drainer.Loop
import Runbook.Drainer.Schedule
import Runbook.Drainer.Source
import Runbook.Encoding
import Runbook.Failure
import Runbook.Interleaving
import Runbook.Log
import Runbook.Machine.Calendar
import Runbook.Machine.Computer
import Runbook.Machine.Course
import Runbook.Machine.Executable
import Runbook.Machine.Files
import Runbook.Machine.Host
import Runbook.Machine.Layout
import Runbook.Machine.Numeral
import Runbook.Machine.Octets
import Runbook.Machine.Program
import Runbook.Machine.Program.Columns
import Runbook.Machine.Program.Editing
import Runbook.Machine.Program.Entries
import Runbook.Machine.Program.Evaluation
import Runbook.Machine.Program.Format
import Runbook.Machine.Program.Launching
import Runbook.Machine.Program.Listing
import Runbook.Machine.Program.Options
import Runbook.Machine.Program.Permission
import Runbook.Machine.Program.Quantity
import Runbook.Machine.Program.Quoted
import Runbook.Machine.Program.Reading
import Runbook.Machine.Program.Reshaping
import Runbook.Machine.Program.Script
import Runbook.Machine.Program.Search
import Runbook.Machine.Program.Sequence
import Runbook.Machine.Program.Sorting
import Runbook.Machine.Program.Task
import Runbook.Machine.Program.Transfer
import Runbook.Machine.Program.Translate
import Runbook.Machine.Real
import Runbook.Machine.Regex
import Runbook.Machine.Scheduler
import Runbook.Machine.Shell.Arithmetic
import Runbook.Machine.Shell.Condition
import Runbook.Machine.Shell.Expansion
import Runbook.Machine.Shell.Field
import Runbook.Machine.Shell.Grammar
import Runbook.Machine.Shell.Interpreter
import Runbook.Machine.Shell.Job
import Runbook.Machine.Shell.Lexer
import Runbook.Machine.Shell.Memory
import Runbook.Machine.Shell.Pattern
import Runbook.Machine.Shell.Print
import Runbook.Machine.Shell.Reader
import Runbook.Machine.Shell.Redirection
import Runbook.Machine.Shell.Setting
import Runbook.Machine.Shell.Start
import Runbook.Machine.Shell.Surroundings
import Runbook.Machine.Shell.Token
import Runbook.Machine.Shell.Tree
import Runbook.Machine.Shell.Variables
import Runbook.Machine.Signal
import Runbook.Machine.Version
import Runbook.Main
import Runbook.Mode
import Runbook.OsError
import Runbook.OsFilter
import Runbook.Path
import Runbook.Plan
import Runbook.Policy
import Runbook.Problems
import Runbook.Process.Child
import Runbook.Process.Execution
import Runbook.Process.Supervision
import Runbook.Process.Watch
import Runbook.Proofs.Changelog.Identity
import Runbook.Proofs.Changelog.Reading
import Runbook.Proofs.Changelog.Reports
import Runbook.Proofs.Changelog.Sufficiency
import Runbook.Proofs.Checksum.Arguments
import Runbook.Proofs.Checksum.Batch
import Runbook.Proofs.Checksum.ChangeSets
import Runbook.Proofs.Checksum.Histories
import Runbook.Proofs.Checksum.Sessions
import Runbook.Proofs.Checksum.Stream
import Runbook.Proofs.Checksum.Subject
import Runbook.Proofs.Checksum.Transcript
import Runbook.Proofs.Chronicle
import Runbook.Proofs.Command.Filter
import Runbook.Proofs.Command.Plans
import Runbook.Proofs.Command.Spelling
import Runbook.Proofs.Drainer.Bounds
import Runbook.Proofs.Drainer.Course
import Runbook.Proofs.Drainer.Gathering
import Runbook.Proofs.Drainer.Reports
import Runbook.Proofs.Drainer.Runs
import Runbook.Proofs.Drainer.Stopping
import Runbook.Proofs.Encoding.Decoding
import Runbook.Proofs.Encoding.Names
import Runbook.Proofs.Inevitability
import Runbook.Proofs.Pipeline.Applying
import Runbook.Proofs.Pipeline.Checks
import Runbook.Proofs.Pipeline.DryRun
import Runbook.Proofs.Pipeline.FailFast
import Runbook.Proofs.Pipeline.Records
import Runbook.Proofs.Pipeline.Stages
import Runbook.Proofs.Pipeline.WorkerCounts
import Runbook.Proofs.Pool.Invariant
import Runbook.Proofs.Pool.Progress
import Runbook.Proofs.Pool.Reports
import Runbook.Proofs.Pool.Schedules
import Runbook.Proofs.Process.Capture
import Runbook.Proofs.Process.Conservation
import Runbook.Proofs.Process.Naming
import Runbook.Proofs.Process.Progress
import Runbook.Proofs.Process.Replay
import Runbook.Proofs.Process.Service
import Runbook.Proofs.Process.Verdict
import Runbook.Proofs.Process.Watching
import Runbook.Proofs.Text.Digits
import Runbook.Proofs.Text.Trimming
import Runbook.Proofs.Text.Utf8
import Runbook.Proofs.Timeout.Exactness
import Runbook.Proofs.Timeout.Grammar
import Runbook.Run
import Runbook.Sink
import Runbook.Text.Alphanumeric
import Runbook.Text.Blank
import Runbook.Text.Case
import Runbook.Text.Case.LowerTable
import Runbook.Text.Case.UpperTable
import Runbook.Text.Hex
import Runbook.Text.Number
import Runbook.Text.Pattern
import Runbook.Text.Pattern.Parser
import Runbook.Text.Property.Alphabetic
import Runbook.Text.Property.CaseIgnorable
import Runbook.Text.Property.Cased
import Runbook.Text.Property.Decimal
import Runbook.Text.Property.GraphemeExtend
import Runbook.Text.Property.Numeric
import Runbook.Text.Property.Unprintable
import Runbook.Text.Quoted
import Runbook.Text.Range
import Runbook.Text.Split
import Runbook.Text.Utf8
import Runbook.Timeout
import Runbook.Toml.Moment
import Runbook.Toml.Scalar
import Runbook.Toml.Statement
import Runbook.Toml.Token
import Runbook.Toml.Tree
import Runbook.Toml.Value
import Runbook.Trace
