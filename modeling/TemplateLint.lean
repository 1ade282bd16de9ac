import TemplateLint.Check
import TemplateLint.CommandLine.Basic
import TemplateLint.CommandLine.Reader
import TemplateLint.Configuration
import TemplateLint.Diagnostic
import TemplateLint.Document
import TemplateLint.Engine
import TemplateLint.Failure
import TemplateLint.Finding
import TemplateLint.Host
import TemplateLint.Inspection
import TemplateLint.Invocation
import TemplateLint.Json.Basic
import TemplateLint.Json.Numeral
import TemplateLint.Json.Printer
import TemplateLint.Json.Reader
import TemplateLint.Linting
import TemplateLint.Machine.Basic
import TemplateLint.Machine.FileTree
import TemplateLint.Machine.Image
import TemplateLint.Machine.Octets
import TemplateLint.Machine.Real
import TemplateLint.Machine.Shell.Arithmetic
import TemplateLint.Machine.Shell.Bindings
import TemplateLint.Machine.Shell.Builtin.Basic
import TemplateLint.Machine.Shell.Builtin.Control
import TemplateLint.Machine.Shell.Builtin.Directory
import TemplateLint.Machine.Shell.Builtin.Naming
import TemplateLint.Machine.Shell.Builtin.Option
import TemplateLint.Machine.Shell.Builtin.Printing
import TemplateLint.Machine.Shell.Builtin.Signalling
import TemplateLint.Machine.Shell.Builtin.Table
import TemplateLint.Machine.Shell.Builtin.Variable
import TemplateLint.Machine.Shell.Condition
import TemplateLint.Machine.Shell.Expansion
import TemplateLint.Machine.Shell.Field
import TemplateLint.Machine.Shell.Format
import TemplateLint.Machine.Shell.Glob
import TemplateLint.Machine.Shell.Process
import TemplateLint.Machine.Shell.Reader
import TemplateLint.Machine.Shell.Redirection
import TemplateLint.Machine.Shell.Run
import TemplateLint.Machine.Shell.Script
import TemplateLint.Machine.Shell.Signal
import TemplateLint.Machine.Shell.Token
import TemplateLint.Machine.Stream
import TemplateLint.Machine.Utility.Basic
import TemplateLint.Machine.Utility.Course
import TemplateLint.Machine.Utility.Table
import TemplateLint.Main
import TemplateLint.Number.Double
import TemplateLint.Path
import TemplateLint.Program
import TemplateLint.Regex.Automaton
import TemplateLint.Regex.ByteRange
import TemplateLint.Regex.Compile
import TemplateLint.Regex.Meaning
import TemplateLint.Regex.Pattern
import TemplateLint.Regex.Reader
import TemplateLint.Regex.Shape
import TemplateLint.Regex.Tree
import TemplateLint.Report.Basic
import TemplateLint.Report.Format
import TemplateLint.Report.Style
import TemplateLint.Report.Stylish
import TemplateLint.Session
import TemplateLint.Settings.Basic
import TemplateLint.Settings.Table
import TemplateLint.SortedMap
import TemplateLint.Template
import TemplateLint.Text.Blank
import TemplateLint.Text.Percent
import TemplateLint.Text.Utf8
import TemplateLint.Toml.Basic
import TemplateLint.Toml.Moment
import TemplateLint.Toml.Reader
import TemplateLint.Unicode.Age
import TemplateLint.Unicode.BinaryProperty
import TemplateLint.Unicode.CaseFolding
import TemplateLint.Unicode.CodeSet
import TemplateLint.Unicode.GeneralCategory
import TemplateLint.Unicode.GraphemeBreak
import TemplateLint.Unicode.Property
import TemplateLint.Unicode.Script
import TemplateLint.Unicode.ScriptExtension
import TemplateLint.Unicode.SentenceBreak
import TemplateLint.Unicode.WordBreak
import TemplateLint.Machine.Utility.Awk.Reader
import TemplateLint.Machine.Utility.Awk.State
import TemplateLint.Proofs.Engine.History
import TemplateLint.Proofs.Engine.Publication
import TemplateLint.Proofs.Session.Handling
import TemplateLint.Proofs.Session.Attempts
import TemplateLint.Proofs.Session.Chronicle
import TemplateLint.Proofs.Session.Coherence
import TemplateLint.Proofs.Session.Isolation
import TemplateLint.Proofs.Session.Lifetime
import TemplateLint.Proofs.Session.Reconfiguration
import TemplateLint.Proofs.Session.Recording
import TemplateLint.Proofs.Session.Retry
import TemplateLint.Proofs.Session.Shown
import TemplateLint.Proofs.Session.Trigger
import TemplateLint.Proofs.Text.ByteOrder
import TemplateLint.Proofs.Json.Spelling
import TemplateLint.Proofs.Json.Reading
import TemplateLint.Proofs.Json.Decimal
import TemplateLint.Proofs.Json.Printing
import TemplateLint.Proofs.Finding
import TemplateLint.Proofs.Report
import TemplateLint.Proofs.Check
import TemplateLint.Proofs.Text.Utf8
import TemplateLint.Proofs.Uri
import TemplateLint.Proofs.Path
import TemplateLint.Proofs.Commands
import TemplateLint.Proofs.Detection
import TemplateLint.Proofs.ShownCommand
import TemplateLint.Proofs.Formats
import TemplateLint.Proofs.LinterHealth
import TemplateLint.Proofs.Session.Repetition
import TemplateLint.Proofs.Session.Atomicity
import TemplateLint.Proofs.Text.Percent
import TemplateLint.Proofs.UriSpelling
import TemplateLint.Proofs.Readiness
import TemplateLint.Proofs.FlagWords
import TemplateLint.Proofs.ShownPlaces
import TemplateLint.Proofs.Regex.Match
import TemplateLint.Proofs.Regex.Search
import TemplateLint.Proofs.TemplateDecision
import TemplateLint.Proofs.Configuration
import TemplateLint.Proofs.Toml.Keys
import TemplateLint.Proofs.SettingsTable
import TemplateLint.Proofs.CompactLines
import TemplateLint.Proofs.Text.Blank
import TemplateLint.Proofs.Text.Spacing
import TemplateLint.Proofs.LinterWords
import TemplateLint.Proofs.LinterVersion
import TemplateLint.Proofs.LinterProgram
import TemplateLint.Proofs.ShownWords
import TemplateLint.Proofs.Colors
import TemplateLint.Proofs.Session.Commands
import TemplateLint.Proofs.Session.DocumentedSettings
