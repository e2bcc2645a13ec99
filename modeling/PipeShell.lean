import PipeShell.Command.Basic
import PipeShell.Command.Cursor
import PipeShell.Command.Dump
import PipeShell.Command.Parse
import PipeShell.Cursor
import PipeShell.Errno
import PipeShell.Executor.Console
import PipeShell.Executor.Control
import PipeShell.Executor.Error
import PipeShell.Executor.Reap
import PipeShell.Executor.Task
import PipeShell.Journal
import PipeShell.Machine.Basic
import PipeShell.Machine.Call
import PipeShell.Machine.Calling
import PipeShell.Machine.Descriptor
import PipeShell.Machine.Environment
import PipeShell.Machine.FileSystem
import PipeShell.Machine.Image
import PipeShell.Machine.Layout
import PipeShell.Machine.Lookup
import PipeShell.Machine.Naming
import PipeShell.Machine.Store
import PipeShell.Machine.Work
import PipeShell.Main
import PipeShell.Proofs.Command.Display
import PipeShell.Proofs.Command.Grammar
import PipeShell.Proofs.Command.Image
import PipeShell.Proofs.Command.Layout
import PipeShell.Proofs.Command.Lookahead
import PipeShell.Proofs.Command.Reading
import PipeShell.Proofs.Command.Resuming
import PipeShell.Proofs.Command.Shape
import PipeShell.Proofs.Command.Stops
import PipeShell.Proofs.Command.Words
import PipeShell.Proofs.Executor.Answers
import PipeShell.Proofs.Executor.Attempts
import PipeShell.Proofs.Executor.Binding
import PipeShell.Proofs.Executor.BrokenPipe
import PipeShell.Proofs.Executor.Budget
import PipeShell.Proofs.Executor.Dues
import PipeShell.Proofs.Executor.EndOfFile
import PipeShell.Proofs.Executor.Events
import PipeShell.Proofs.Executor.Launches
import PipeShell.Proofs.Executor.Moves
import PipeShell.Proofs.Executor.Origins
import PipeShell.Proofs.Executor.Outcomes
import PipeShell.Proofs.Executor.Parts
import PipeShell.Proofs.Executor.Progress
import PipeShell.Proofs.Executor.Reaping
import PipeShell.Proofs.Executor.Redirections
import PipeShell.Proofs.Executor.Sides
import PipeShell.Proofs.Executor.Stages
import PipeShell.Proofs.Executor.Stance
import PipeShell.Proofs.Executor.Trail
import PipeShell.Proofs.Executor.Wiring
import PipeShell.Proofs.Machine.Blanking
import PipeShell.Proofs.Machine.Children
import PipeShell.Proofs.Machine.Discretion
import PipeShell.Proofs.Machine.Heedless
import PipeShell.Proofs.Machine.Likeness
import PipeShell.Proofs.Machine.Moves
import PipeShell.Proofs.Machine.Opening
import PipeShell.Proofs.Machine.Runs
import PipeShell.Proofs.Machine.Soundness
import PipeShell.Proofs.Machine.Stillness
import PipeShell.Proofs.Machine.Tables
import PipeShell.Proofs.Machine.Targets
import PipeShell.Proofs.Machine.Veil
import PipeShell.Proofs.Machine.Working
import PipeShell.Proofs.Settings.Loading
import PipeShell.Proofs.Settings.Mode
import PipeShell.Proofs.Shell.Agreement
import PipeShell.Proofs.Shell.Aside
import PipeShell.Proofs.Shell.Attached
import PipeShell.Proofs.Shell.Blanks
import PipeShell.Proofs.Shell.Deeds
import PipeShell.Proofs.Shell.Lines
import PipeShell.Proofs.Shell.Lockstep
import PipeShell.Proofs.Shell.Mishaps
import PipeShell.Proofs.Shell.Readers
import PipeShell.Proofs.Shell.Recall
import PipeShell.Proofs.Shell.Reports
import PipeShell.Proofs.Shell.Sharing
import PipeShell.Proofs.Shell.Statuses
import PipeShell.Proofs.Shell.Turns
import PipeShell.Proofs.Shell.Unread
import PipeShell.Proofs.Shell.Waiting
import PipeShell.Proofs.Text.Trimming
import PipeShell.Proofs.Text.Utf8
import PipeShell.Settings.Basic
import PipeShell.Settings.Dotenv
import PipeShell.Settings.EnvFile
import PipeShell.Settings.Load
import PipeShell.Shell.CommandLine
import PipeShell.Shell.Conversation
import PipeShell.Shell.Editor
import PipeShell.Shell.History
import PipeShell.Shell.Home
import PipeShell.Shell.Interactive
import PipeShell.Shell.LineSource
import PipeShell.Shell.PlainEditor
import PipeShell.Shell.Request
import PipeShell.Shell.Session
import PipeShell.Shell.Theme
import PipeShell.Text.Alphanumeric
import PipeShell.Text.Blank
import PipeShell.Text.Grapheme
import PipeShell.Text.Joining
import PipeShell.Text.Path
import PipeShell.Text.Plain
import PipeShell.Text.Quoted
import PipeShell.Text.Split
import PipeShell.Text.Unprintable
import PipeShell.Text.Utf8
import PipeShell.Token
import PipeShell.Userland.Binary
import PipeShell.Userland.Format
import PipeShell.Userland.Program
import PipeShell.Userland.Script.Arithmetic
import PipeShell.Userland.Script.Builtin.Condition
import PipeShell.Userland.Script.Builtin.Directory
import PipeShell.Userland.Script.Builtin.Options
import PipeShell.Userland.Script.Builtin.Output
import PipeShell.Userland.Script.Builtin.Signal
import PipeShell.Userland.Script.Builtin.State
import PipeShell.Userland.Script.Builtin.Table
import PipeShell.Userland.Script.Evaluation
import PipeShell.Userland.Script.Expansion
import PipeShell.Userland.Script.Lookup
import PipeShell.Userland.Script.Pattern
import PipeShell.Userland.Script.Process
import PipeShell.Userland.Script.Reader
import PipeShell.Userland.Script.Redirection
import PipeShell.Userland.Script.Session
import PipeShell.Userland.Script.Source
import PipeShell.Userland.Script.Splitting
import PipeShell.Userland.Script.Start
import PipeShell.Userland.Script.Syntax
import PipeShell.Userland.Script.Token
import PipeShell.Userland.Script.Variable
import PipeShell.Userland.Script.Words
import PipeShell.Userland.Shown
import PipeShell.Userland.Standard
import PipeShell.Userland.Tool.Arguments
import PipeShell.Userland.Tool.Cat
import PipeShell.Userland.Tool.Change
import PipeShell.Userland.Tool.Columns
import PipeShell.Userland.Tool.Condition
import PipeShell.Userland.Tool.Copy
import PipeShell.Userland.Tool.Count
import PipeShell.Userland.Tool.Environment
import PipeShell.Userland.Tool.Expression
import PipeShell.Userland.Tool.Fields
import PipeShell.Userland.Tool.Join
import PipeShell.Userland.Tool.Lines
import PipeShell.Userland.Tool.Link
import PipeShell.Userland.Tool.Listing
import PipeShell.Userland.Tool.Order
import PipeShell.Userland.Tool.Path
import PipeShell.Userland.Tool.Permission
import PipeShell.Userland.Tool.Portion
import PipeShell.Userland.Tool.Print
import PipeShell.Userland.Tool.Printing
import PipeShell.Userland.Tool.Quantity
import PipeShell.Userland.Tool.Regex
import PipeShell.Userland.Tool.Series
import PipeShell.Userland.Tool.Sort
import PipeShell.Userland.Tool.Translate
import PipeShell.Userland.Tool.Uniq
