import Ratchet.Calendar
import Ratchet.Change.Discovery
import Ratchet.Change.Extension
import Ratchet.Change.Git
import Ratchet.Change.NameList
import Ratchet.Change.Query
import Ratchet.Change.Revision
import Ratchet.Change.Status
import Ratchet.Change.Vcs
import Ratchet.Check.Document
import Ratchet.Check.Event
import Ratchet.Check.Report
import Ratchet.Check.Request
import Ratchet.Check.Run
import Ratchet.Check.Screen
import Ratchet.Check.State
import Ratchet.Check.Step
import Ratchet.Check.Verdict
import Ratchet.Closing
import Ratchet.Compiler.Diagnostic
import Ratchet.Compiler.Invocation
import Ratchet.Compiler.Match
import Ratchet.Compiler.Toggle
import Ratchet.Disk
import Ratchet.Journal
import Ratchet.Log.File
import Ratchet.Log.Filter
import Ratchet.Log.Level
import Ratchet.Log.Record
import Ratchet.Log.Redaction
import Ratchet.Log.Span
import Ratchet.Main
import Ratchet.Number.Binary
import Ratchet.Number.Numeral
import Ratchet.Number.Rounded
import Ratchet.Path
import Ratchet.Program
import Ratchet.Settings.ArgumentList
import Ratchet.Settings.Arguments
import Ratchet.Settings.Config
import Ratchet.Settings.Conversion
import Ratchet.Settings.Facts
import Ratchet.Settings.Host
import Ratchet.Settings.Include
import Ratchet.Settings.Issue
import Ratchet.Settings.Layers
import Ratchet.Settings.Load
import Ratchet.Settings.Outline
import Ratchet.Settings.Override
import Ratchet.Settings.Place
import Ratchet.Settings.Reference
import Ratchet.Settings.Section
import Ratchet.Settings.Tree
import Ratchet.Settings.VariableFile
import Ratchet.Settings.Variables
import Ratchet.Shell.Command
import Ratchet.Shell.Word
import Ratchet.Template
import Ratchet.Template.Clock
import Ratchet.Template.Field
import Ratchet.Template.Format
import Ratchet.Template.Kind
import Ratchet.Template.Member
import Ratchet.Template.Subject
import Ratchet.Template.Supply
import Ratchet.Text.Blank
import Ratchet.Text.Case
import Ratchet.Text.Cut
import Ratchet.Text.Digit
import Ratchet.Text.Lines
import Ratchet.Text.Printable
import Ratchet.Text.Quoted
import Ratchet.Text.Word
import Ratchet.Timing
import Ratchet.Value
import Ratchet.Value.Display
import Ratchet.Value.Json
import Ratchet.Value.Merge
import Ratchet.Yaml.Cursor
import Ratchet.Yaml.Error
import Ratchet.Yaml.Meaning
import Ratchet.Yaml.Node
import Ratchet.Yaml.Token
import Ratchet.Yaml.Token.Mark
import Ratchet.Yaml.Token.Reader
import Ratchet.Yaml.Token.Scalar
import Ratchet.Proofs.Change.ChangeSet
import Ratchet.Proofs.Change.Commands
import Ratchet.Proofs.Change.ForkPoint
import Ratchet.Proofs.Change.Knowledge
import Ratchet.Proofs.Change.NameList
import Ratchet.Proofs.Change.Status
import Ratchet.Proofs.Check.Account
import Ratchet.Proofs.Check.Alike
import Ratchet.Proofs.Check.Attribution
import Ratchet.Proofs.Check.Branches
import Ratchet.Proofs.Check.Calls
import Ratchet.Proofs.Check.Commands
import Ratchet.Proofs.Check.Degradation
import Ratchet.Proofs.Check.Delivery
import Ratchet.Proofs.Check.EarlyEnd
import Ratchet.Proofs.Check.ExitCode
import Ratchet.Proofs.Check.Frame
import Ratchet.Proofs.Check.Invariant
import Ratchet.Proofs.Check.Modes
import Ratchet.Proofs.Check.Refusals
import Ratchet.Proofs.Check.Relevance
import Ratchet.Proofs.Check.Run
import Ratchet.Proofs.Check.Script
import Ratchet.Proofs.Check.Tally
import Ratchet.Proofs.Check.Views
import Ratchet.Proofs.Check.Warnings
import Ratchet.Proofs.Compiler.Header
import Ratchet.Proofs.Compiler.Invocation
import Ratchet.Proofs.Compiler.Match
import Ratchet.Proofs.Compiler.Name
import Ratchet.Proofs.Compiler.NormalForm
import Ratchet.Proofs.Compiler.Streams
import Ratchet.Proofs.Settings.CommandTemplate
import Ratchet.Proofs.Settings.Config
import Ratchet.Proofs.Settings.Field
import Ratchet.Proofs.Settings.Include
import Ratchet.Proofs.Settings.Layers
import Ratchet.Proofs.Settings.LogFile
import Ratchet.Proofs.Settings.Mention
import Ratchet.Proofs.Settings.Nesting
import Ratchet.Proofs.Settings.Reference
import Ratchet.Proofs.Settings.Shape
import Ratchet.Proofs.Settings.Spelling
import Ratchet.Proofs.Settings.Substitution
import Ratchet.Proofs.Settings.Tree
import Ratchet.Proofs.Settings.Written
import Ratchet.Proofs.Shell.Directory
import Ratchet.Proofs.Shell.Echo
import Ratchet.Proofs.Shell.Quoting
import Ratchet.Proofs.Shell.Reading
import Ratchet.Proofs.Shell.Weight
import Ratchet.Proofs.Template.Filling
import Ratchet.Proofs.Text.Blank
import Ratchet.Proofs.Text.Lines
import Ratchet.Proofs.Timing
import Ratchet.Proofs.Value.Compatible
import Ratchet.Proofs.Value.Merge
import Ratchet.Proofs.Yaml.Meaning
import Ratchet.Proofs.Log.Filter
import Ratchet.Proofs.Settings.SinkLevel
import Ratchet.Proofs.Settings.Expansion
import Ratchet.Proofs.Text.Unbroken
import Ratchet.Proofs.Value.Display
import Ratchet.Proofs.Template.Layout
import Ratchet.Proofs.Log.Line
import Ratchet.Proofs.Template.Obstacle
import Ratchet.Proofs.Log.Fallback
import Ratchet.Proofs.Closing
import Ratchet.Proofs.Settings.Arguments
import Ratchet.Proofs.Settings.IncludeOption
import Ratchet.Proofs.Check.Order
