import Themer.Text.CharClass
import Themer.Text.Lines
import Themer.Text.Utf8
import Themer.Text.Quoted
import Themer.Number.Shortest
import Themer.Number.Fixed
import Themer.Number.Numeral
import Themer.Color.Hex
import Themer.Color.Palette
import Themer.Path
import Themer.Json.Reader
import Themer.Json.Writer
import Themer.Scheme.Reader
import Themer.Disk.Change
import Themer.Blueprint.Placeholder
import Themer.Blueprint.Directive
import Themer.Blueprint.HeadStep
import Themer.Nesting
import Themer.Failure
import Themer.Notice
import Themer.Blueprint.Render
import Themer.Script.Syntax
import Themer.Script.Reader
import Themer.Script.Arithmetic
import Themer.Script.Pattern
import Themer.Script.Shell
import Themer.Script.Process
import Themer.Script.Expansion
import Themer.Script.Condition
import Themer.Script.Format
import Themer.Script.Formula
import Themer.Script.Pieces
import Themer.Script.Options
import Themer.Script.Interpreter
import Themer.Script.Builtin
import Themer.Script.Files
import Themer.Script.Filters
import Themer.Script.Regex
import Themer.Script.Search
import Themer.Script.Delegation
import Themer.Script.Edit.Command
import Themer.Script.Edit.Reader
import Themer.Script.Edit.Work
import Themer.Script.Editing
import Themer.Script.Programs
import Themer.Script.Evaluate
import Themer.Script.System
import Themer.Script.Launch
import Themer.DocumentReader
import Themer.Problem
import Themer.Session
import Themer.Blueprint.Build
import Themer.Scheme.File
import Themer.Environment
import Themer.Script.Run
import Themer.Setup
import Themer.Listing
import Themer.Yaml.Fault
import Themer.Yaml.Scalar
import Themer.Yaml.Token
import Themer.Yaml.Node
import Themer.Yaml.Plain
import Themer.Yaml.Reader
import Themer.Settings
import Themer.Command.Arguments
import Themer.Command.Run
import Themer.AtHand
import Themer.Main
import Themer.Proofs.Outcome
import Themer.Proofs.Text.Utf8
import Themer.Proofs.Color.MixName
import Themer.Proofs.Color.Memory
import Themer.Proofs.Color.Average
import Themer.Proofs.Color.Calls
import Themer.Proofs.Color.Agree
import Themer.Proofs.Color.Hex
import Themer.Proofs.Json.RoundTrip
import Themer.Proofs.Disk.Names
import Themer.Proofs.Disk.Tree
import Themer.Proofs.Disk.Place
import Themer.Proofs.Disk.Changed
import Themer.Proofs.Session.Work
import Themer.Proofs.Blueprint.Grammar
import Themer.Proofs.Blueprint.Occurrence
import Themer.Proofs.Blueprint.Sections
import Themer.Proofs.Blueprint.Alike
import Themer.Proofs.Blueprint.History
import Themer.Proofs.Blueprint.NamesApart
import Themer.Proofs.Blueprint.Verdicts
import Themer.Proofs.Blueprint.AllOrNothing
import Themer.Proofs.Blueprint.ChangedTree
import Themer.Proofs.Blueprint.Steps
import Themer.Proofs.Blueprint.Batch
import Themer.Proofs.Scheme.Saved
import Themer.Proofs.Disk.Directories
import Themer.Proofs.Blueprint.Attempted
import Themer.Proofs.Command.Stages
import Themer.Proofs.Command.Problems
import Themer.Proofs.Blueprint.Discovered
import Themer.Proofs.Blueprint.Searched
import Themer.Proofs.Blueprint.FoundAgain
import Themer.Proofs.Blueprint.Ledger
import Themer.Proofs.Disk.Restored
import Themer.Proofs.Command.Gathered
import Themer.Proofs.Command.Reload
import Themer.Proofs.Text.Blocks
import Themer.Proofs.Text.Lines
import Themer.Proofs.Text.Encoded
import Themer.Proofs.Blueprint.Readings
import Themer.Proofs.Json.Bounds
import Themer.Proofs.Json.Deeper
import Themer.Proofs.Disk.Listed
import Themer.Proofs.Scheme.Listed
import Themer.Proofs.Scheme.ListedNames
import Themer.Proofs.Blueprint.Namesakes
import Themer.Proofs.Command.Selected
import Themer.Proofs.Command.Named
import Themer.Proofs.Blueprint.Verbatim
import Themer.Proofs.Datum.Keys
import Themer.Proofs.Yaml.Values
import Themer.Proofs.Settings.Merged
import Themer.Proofs.Disk.Overlong
import Themer.Proofs.Blueprint.Refused
import Themer.Proofs.Text.Pieces
import Themer.Proofs.Yaml.Limits
import Themer.Proofs.Yaml.Nodes
import Themer.Proofs.Yaml.Scalars
import Themer.Proofs.Yaml.Scanned
import Themer.Proofs.Yaml.Sources
import Themer.Proofs.Settings.Reported
import Themer.Proofs.Settings.Accepted
import Themer.Proofs.AtHome
import Themer.Proofs.Blueprint.Spelling
import Themer.Proofs.Json.Distinct
import Themer.Proofs.Scheme.Accepted
import Themer.Proofs.Script.Judged
import Themer.Proofs.Script.Launched
import Themer.Proofs.Text.Stripped
import Themer.Proofs.Color.Spelled
import Themer.Proofs.Listing.Sorted
import Themer.Proofs.Setup
import Themer.Proofs.Messages
import Themer.Proofs.Command.OneLine
