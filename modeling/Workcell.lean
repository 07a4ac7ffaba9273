import Workcell.Assignment
import Workcell.Backend
import Workcell.BuildLog
import Workcell.Canonical
import Workcell.Command
import Workcell.CommandLine.Exec
import Workcell.CommandLine.Options
import Workcell.CommandLine.Program
import Workcell.CommandLine.Reading
import Workcell.CommandLine.Usage
import Workcell.Configuration
import Workcell.Container
import Workcell.Display.CellWidth
import Workcell.Display.Cells
import Workcell.Display.Console
import Workcell.Display.Emoji
import Workcell.Display.EmojiNames
import Workcell.Display.Environment
import Workcell.Display.Markup
import Workcell.Display.Style
import Workcell.Display.Table
import Workcell.Display.Wrap
import Workcell.Errno
import Workcell.Failure
import Workcell.Filesystem
import Workcell.Line
import Workcell.Machine
import Workcell.Main
import Workcell.Mount
import Workcell.Note
import Workcell.Number.Basic
import Workcell.Number.Double
import Workcell.Number.Reading
import Workcell.Number.Shortest
import Workcell.Pairs
import Workcell.Path
import Workcell.Policy
import Workcell.Proofs.Assignment
import Workcell.Proofs.Backends
import Workcell.Proofs.BuildLog
import Workcell.Proofs.Canonical
import Workcell.Proofs.CommandLine.Assignments
import Workcell.Proofs.CommandLine.DryRun
import Workcell.Proofs.CommandLine.ExitCode
import Workcell.Proofs.CommandLine.Stages
import Workcell.Proofs.CommandLine.Timeout
import Workcell.Proofs.Configuration
import Workcell.Proofs.Console
import Workcell.Proofs.Container
import Workcell.Proofs.Decoding
import Workcell.Proofs.Dialogue
import Workcell.Proofs.EngineArguments
import Workcell.Proofs.Escape
import Workcell.Proofs.Except
import Workcell.Proofs.Expansion
import Workcell.Proofs.Filesystem
import Workcell.Proofs.Filling
import Workcell.Proofs.JoinedLines
import Workcell.Proofs.Launch
import Workcell.Proofs.LogSteps
import Workcell.Proofs.LongestFirst
import Workcell.Proofs.Machine
import Workcell.Proofs.Markup
import Workcell.Proofs.Masking
import Workcell.Proofs.Mount
import Workcell.Proofs.Nesting
import Workcell.Proofs.NormalForm
import Workcell.Proofs.Pairs
import Workcell.Proofs.Path
import Workcell.Proofs.Policy
import Workcell.Proofs.Preflight
import Workcell.Proofs.Redaction
import Workcell.Proofs.Reresolution
import Workcell.Proofs.Resolution
import Workcell.Proofs.Run.Capture
import Workcell.Proofs.Run.Execute
import Workcell.Proofs.Run.Fate
import Workcell.Proofs.Run.Faults
import Workcell.Proofs.Run.History
import Workcell.Proofs.Run.LineEndings
import Workcell.Proofs.Run.Lines
import Workcell.Proofs.Run.Reap
import Workcell.Proofs.Run.Record
import Workcell.Proofs.Run.Secrecy
import Workcell.Proofs.Run.Sinks
import Workcell.Proofs.Run.Stopping
import Workcell.Proofs.Run.Watch
import Workcell.Proofs.Sandbox
import Workcell.Proofs.Schema
import Workcell.Proofs.Selection
import Workcell.Proofs.Session
import Workcell.Proofs.Settings
import Workcell.Proofs.Spelling
import Workcell.Proofs.Utf8
import Workcell.Proofs.Yaml.Composer
import Workcell.Proofs.Yaml.Construction
import Workcell.Proofs.Yaml.Document
import Workcell.Proofs.Yaml.Filled.Block
import Workcell.Proofs.Yaml.Filled.Cursor
import Workcell.Proofs.Yaml.Filled.Document
import Workcell.Proofs.Yaml.Filled.Graph
import Workcell.Proofs.Yaml.Filled.Plain
import Workcell.Proofs.Yaml.Filled.Quoted
import Workcell.Proofs.Yaml.Filled.Readers
import Workcell.Proofs.Yaml.Filled.States
import Workcell.Proofs.Yaml.Filled.Steps
import Workcell.Proofs.Yaml.Filled.Template
import Workcell.Proofs.Yaml.Filled.Text
import Workcell.Proofs.Yaml.Filled.Tokens
import Workcell.Proofs.Yaml.Scanner
import Workcell.Reader
import Workcell.Redaction
import Workcell.Run.Engine
import Workcell.Run.Execute
import Workcell.Run.Inlet
import Workcell.Run.Pipe
import Workcell.Run.Progress
import Workcell.Run.Script
import Workcell.Schema.Checked
import Workcell.Schema.Compound
import Workcell.Schema.Datum
import Workcell.Schema.Models
import Workcell.Schema.Problem
import Workcell.Schema.Scalar
import Workcell.Session
import Workcell.Settings.Basic
import Workcell.Settings.File
import Workcell.Telemetry
import Workcell.Text.Base64
import Workcell.Text.Blank
import Workcell.Text.Breaks
import Workcell.Text.Digit
import Workcell.Text.Lower
import Workcell.Text.Printable
import Workcell.Text.Quoted
import Workcell.Text.Ranges
import Workcell.Text.Shell
import Workcell.Text.Split
import Workcell.Text.Utf8
import Workcell.Text.Variables
import Workcell.Yaml.Construction
import Workcell.Yaml.Cursor
import Workcell.Yaml.Document
import Workcell.Yaml.Error
import Workcell.Yaml.Graph
import Workcell.Yaml.Moment
import Workcell.Yaml.Scalar
import Workcell.Yaml.ScalarText
import Workcell.Yaml.Tag
import Workcell.Yaml.Token
