import Rollout.Batch
import Rollout.Blake3
import Rollout.Checksum
import Rollout.Dict
import Rollout.Dotenv
import Rollout.FileTree
import Rollout.Inventory.Basic
import Rollout.Inventory.Json
import Rollout.Load
import Rollout.Machine.Archive
import Rollout.Machine.Calendar.Basic
import Rollout.Machine.Calendar.Format
import Rollout.Machine.Calendar.Parser
import Rollout.Machine.Deflate.Basic
import Rollout.Machine.Deflate.Matching
import Rollout.Machine.Deflate.Reader
import Rollout.Machine.Deflate.Writer
import Rollout.Machine.Difference
import Rollout.Machine.Digest
import Rollout.Machine.Files
import Rollout.Machine.Number.Rounded
import Rollout.Machine.Program.Archiving
import Rollout.Machine.Program.Blocks
import Rollout.Machine.Program.Bundle.Naming
import Rollout.Machine.Program.Bundle.Options
import Rollout.Machine.Program.Bundle.Restoring
import Rollout.Machine.Program.Bundle.Storing
import Rollout.Machine.Program.Bundle.Work
import Rollout.Machine.Program.Columns
import Rollout.Machine.Program.Comparing
import Rollout.Machine.Program.Compressing
import Rollout.Machine.Program.Dates
import Rollout.Machine.Program.Describing
import Rollout.Machine.Program.Digests
import Rollout.Machine.Program.Display
import Rollout.Machine.Program.Dumping
import Rollout.Machine.Program.Edit.Run
import Rollout.Machine.Program.Edit.Script
import Rollout.Machine.Program.Encoding
import Rollout.Machine.Program.Environment
import Rollout.Machine.Program.Facts
import Rollout.Machine.Program.Filling
import Rollout.Machine.Program.Find.Condition
import Rollout.Machine.Program.Finding
import Rollout.Machine.Program.Gathering
import Rollout.Machine.Program.Input
import Rollout.Machine.Program.Interpreting
import Rollout.Machine.Program.Listing
import Rollout.Machine.Program.Making
import Rollout.Machine.Program.Matching
import Rollout.Machine.Program.Mixing
import Rollout.Machine.Program.Numbers
import Rollout.Machine.Program.Pages
import Rollout.Machine.Program.Parts
import Rollout.Machine.Program.Paths
import Rollout.Machine.Program.Perl.Dump
import Rollout.Machine.Program.Perl.Format
import Rollout.Machine.Program.Perl.Function
import Rollout.Machine.Program.Perl.Library
import Rollout.Machine.Program.Perl.Machine
import Rollout.Machine.Program.Perl.Matching
import Rollout.Machine.Program.Perl.Operator
import Rollout.Machine.Program.Perl.Packing
import Rollout.Machine.Program.Perl.Parser
import Rollout.Machine.Program.Perl.Port
import Rollout.Machine.Program.Perl.Run
import Rollout.Machine.Program.Perl.Step
import Rollout.Machine.Program.Perl.Syntax
import Rollout.Machine.Program.Perl.Token
import Rollout.Machine.Program.Perl.Value
import Rollout.Machine.Program.Permission
import Rollout.Machine.Program.Printing
import Rollout.Machine.Program.Removing
import Rollout.Machine.Program.Review.Layout
import Rollout.Machine.Program.Review.Line
import Rollout.Machine.Program.Review.Template
import Rollout.Machine.Program.Reviewing
import Rollout.Machine.Program.Running
import Rollout.Machine.Program.Scale
import Rollout.Machine.Program.Scan.Machine
import Rollout.Machine.Program.Scan.Matching
import Rollout.Machine.Program.Scan.Parser
import Rollout.Machine.Program.Scan.Run
import Rollout.Machine.Program.Scan.Syntax
import Rollout.Machine.Program.Scan.Table
import Rollout.Machine.Program.Scan.Token
import Rollout.Machine.Program.Scan.Value
import Rollout.Machine.Program.Scanning
import Rollout.Machine.Program.Searching
import Rollout.Machine.Program.Sections
import Rollout.Machine.Program.Sorting
import Rollout.Machine.Program.Table
import Rollout.Machine.Program.Tabs
import Rollout.Machine.Program.Transfer
import Rollout.Machine.Program.Units
import Rollout.Machine.Program.Usage
import Rollout.Machine.Regex.Basic
import Rollout.Machine.Regex.Parser
import Rollout.Machine.Regex.Rich
import Rollout.Machine.Shell.Arithmetic
import Rollout.Machine.Shell.Brace
import Rollout.Machine.Shell.Builtin.Basic
import Rollout.Machine.Shell.Builtin.Completing
import Rollout.Machine.Shell.Builtin.Declaring
import Rollout.Machine.Shell.Builtin.Directories
import Rollout.Machine.Shell.Builtin.Jobs
import Rollout.Machine.Shell.Builtin.Naming
import Rollout.Machine.Shell.Builtin.Reading
import Rollout.Machine.Shell.Builtin.Signals
import Rollout.Machine.Shell.Builtin.Table
import Rollout.Machine.Shell.Command
import Rollout.Machine.Shell.Condition
import Rollout.Machine.Shell.Eval
import Rollout.Machine.Shell.Field
import Rollout.Machine.Shell.Listing
import Rollout.Machine.Shell.Menu
import Rollout.Machine.Shell.Parameter
import Rollout.Machine.Shell.Parser
import Rollout.Machine.Shell.Pattern
import Rollout.Machine.Shell.Quoting
import Rollout.Machine.Shell.Region
import Rollout.Machine.Shell.Scope
import Rollout.Machine.Shell.Spawn
import Rollout.Machine.Shell.Start
import Rollout.Machine.Shell.State
import Rollout.Machine.Shell.Token
import Rollout.Machine.Unix.Executable
import Rollout.Machine.Unix.Flag
import Rollout.Machine.Unix.Format
import Rollout.Machine.Unix.Manual
import Rollout.Machine.Unix.Mode
import Rollout.Machine.Unix.Process
import Rollout.Machine.Unix.Quotation
import Rollout.Machine.Unix.Signal
import Rollout.Machine.Unix.System
import Rollout.Machine.Version
import Rollout.Main
import Rollout.Options
import Rollout.Prompt
import Rollout.Proofs.Batch
import Rollout.Proofs.Checksum.Determined
import Rollout.Proofs.Checksum.Stream
import Rollout.Proofs.Checksum.Visible
import Rollout.Proofs.Dict
import Rollout.Proofs.Inventory
import Rollout.Proofs.Prompt
import Rollout.Proofs.Run.Containment
import Rollout.Proofs.Run.Course
import Rollout.Proofs.Run.Delivery
import Rollout.Proofs.Run.FanOut
import Rollout.Proofs.Run.Handed
import Rollout.Proofs.Run.Inlining
import Rollout.Proofs.Run.Outcome
import Rollout.Proofs.Run.Parts
import Rollout.Proofs.Run.Protocol
import Rollout.Proofs.Run.Recorded
import Rollout.Proofs.Run.Rolling
import Rollout.Proofs.Run.Rounds
import Rollout.Proofs.Run.ServerReference
import Rollout.Proofs.Run.Splitting
import Rollout.Proofs.Run.Stages
import Rollout.Proofs.Selection
import Rollout.Proofs.Substitution.Convergence
import Rollout.Proofs.Substitution.Pass
import Rollout.Proofs.Substitution.Rounds
import Rollout.Proofs.Substitution.Separation
import Rollout.Proofs.Substitution.Stages
import Rollout.Proofs.Substitution.Tidy
import Rollout.Proofs.Substitution.Visibility
import Rollout.Proofs.Text
import Rollout.Proofs.Upfile.Agreement
import Rollout.Proofs.Upfile.Blocks
import Rollout.Proofs.Upfile.Faults
import Rollout.Proofs.Upfile.Halting
import Rollout.Proofs.Upfile.Lexing
import Rollout.Proofs.Upfile.Lines
import Rollout.Proofs.Upfile.RoundTrip
import Rollout.Proofs.Upfile.Steps
import Rollout.Proofs.Upfile.Tokens
import Rollout.Proofs.Upfile.WellFormed
import Rollout.Proofs.Utf8
import Rollout.Result
import Rollout.Run.Event
import Rollout.Run.Group
import Rollout.Run.Rolling
import Rollout.Run.Shell
import Rollout.Run.Task
import Rollout.Session
import Rollout.Substitution
import Rollout.Text.Alphanumeric
import Rollout.Text.Basic
import Rollout.Text.Printable
import Rollout.Text.Utf8
import Rollout.Transcript
import Rollout.Upfile.Basic
import Rollout.Upfile.Cursor
import Rollout.Upfile.Parser
import Rollout.Upfile.Token
import Rollout.Workspace
