import LineEditor.Address.Resolution
import LineEditor.Address.Token
import LineEditor.Buffer.Basic
import LineEditor.Buffer.Edit
import LineEditor.Buffer.File
import LineEditor.Buffer.History
import LineEditor.Buffer.Search
import LineEditor.Buffer.Transaction
import LineEditor.Channel
import LineEditor.Command.Registry
import LineEditor.Command.Spec
import LineEditor.CommandLine
import LineEditor.Config
import LineEditor.Console.Host
import LineEditor.Console.Options
import LineEditor.Console.Program
import LineEditor.Decimal.Binary
import LineEditor.Decimal.Reading
import LineEditor.Decimal.Shortest
import LineEditor.Disk
import LineEditor.Document
import LineEditor.Editor.Basic
import LineEditor.Editor.Change
import LineEditor.Editor.Dispatch
import LineEditor.Editor.Display
import LineEditor.Editor.Handling
import LineEditor.Editor.Launch
import LineEditor.Editor.Outside
import LineEditor.Editor.Status
import LineEditor.Editor.Submission
import LineEditor.Editor.Switching
import LineEditor.Editor.TextEntry
import LineEditor.Environment
import LineEditor.Fault
import LineEditor.FilePath
import LineEditor.Main
import LineEditor.Pattern.Basic
import LineEditor.Pattern.CharClass
import LineEditor.Pattern.Engine
import LineEditor.Pattern.Flags
import LineEditor.Pattern.Matcher
import LineEditor.Pattern.Reader
import LineEditor.Pattern.Replacement
import LineEditor.Pattern.Template
import LineEditor.Pattern.Token
import LineEditor.Platform
import LineEditor.Proofs.Address.Meaning
import LineEditor.Proofs.Address.Nearest
import LineEditor.Proofs.Address.Recalling
import LineEditor.Proofs.Address.Resolving
import LineEditor.Proofs.Address.Written
import LineEditor.Proofs.Buffer.Blocks
import LineEditor.Proofs.Buffer.Changes
import LineEditor.Proofs.Buffer.Composition
import LineEditor.Proofs.Buffer.Edits
import LineEditor.Proofs.Buffer.Filing
import LineEditor.Proofs.Buffer.Replacing
import LineEditor.Proofs.Buffer.Searching
import LineEditor.Proofs.Buffer.Transactions
import LineEditor.Proofs.Buffer.Validity
import LineEditor.Proofs.Command.Accounting
import LineEditor.Proofs.Command.Contract
import LineEditor.Proofs.Command.Numbers
import LineEditor.Proofs.Command.Planning
import LineEditor.Proofs.Command.Scanning
import LineEditor.Proofs.Command.Spacing
import LineEditor.Proofs.Command.Stepping
import LineEditor.Proofs.Command.Tokens
import LineEditor.Proofs.Console.Hosting
import LineEditor.Proofs.Disk
import LineEditor.Proofs.Editor.Atomicity
import LineEditor.Proofs.Editor.Balance
import LineEditor.Proofs.Editor.Candor
import LineEditor.Proofs.Editor.Changing
import LineEditor.Proofs.Editor.CommandSteps
import LineEditor.Proofs.Editor.Commands
import LineEditor.Proofs.Editor.Concluding
import LineEditor.Proofs.Editor.Consulting
import LineEditor.Proofs.Editor.Effects
import LineEditor.Proofs.Editor.Ensures
import LineEditor.Proofs.Editor.Entries
import LineEditor.Proofs.Editor.Escapes
import LineEditor.Proofs.Editor.Filing
import LineEditor.Proofs.Editor.Foreseen
import LineEditor.Proofs.Editor.Grouping
import LineEditor.Proofs.Editor.Invariant
import LineEditor.Proofs.Editor.Joining
import LineEditor.Proofs.Editor.Logging
import LineEditor.Proofs.Editor.Narrative
import LineEditor.Proofs.Editor.Numbered
import LineEditor.Proofs.Editor.Opening
import LineEditor.Proofs.Editor.Outcomes
import LineEditor.Proofs.Editor.OwnCommands
import LineEditor.Proofs.Editor.Ownership
import LineEditor.Proofs.Editor.Parts
import LineEditor.Proofs.Editor.Performing
import LineEditor.Proofs.Editor.Primitives
import LineEditor.Proofs.Editor.Quitting
import LineEditor.Proofs.Editor.Reachable
import LineEditor.Proofs.Editor.Rearranging
import LineEditor.Proofs.Editor.Recording
import LineEditor.Proofs.Editor.Repeatable
import LineEditor.Proofs.Editor.Repeating
import LineEditor.Proofs.Editor.Reporting
import LineEditor.Proofs.Editor.Revising
import LineEditor.Proofs.Editor.Remembering
import LineEditor.Proofs.Editor.RolledBack
import LineEditor.Proofs.Editor.RoundTrip
import LineEditor.Proofs.Editor.Safety
import LineEditor.Proofs.Editor.Saving
import LineEditor.Proofs.Editor.Scripts
import LineEditor.Proofs.Editor.Settling
import LineEditor.Proofs.Editor.Shorthands
import LineEditor.Proofs.Editor.Submitting
import LineEditor.Proofs.Editor.Substituting
import LineEditor.Proofs.Editor.Telling
import LineEditor.Proofs.Editor.TextSteps
import LineEditor.Proofs.Editor.UndoStack
import LineEditor.Proofs.Editor.Undoing
import LineEditor.Proofs.Editor.Working
import LineEditor.Proofs.Faults
import LineEditor.Proofs.FilePath
import LineEditor.Proofs.Pattern.Reading
import LineEditor.Proofs.Pattern.Replacements
import LineEditor.Proofs.PlainOutcome
import LineEditor.Proofs.Substitution
import LineEditor.Proofs.Substitution.Spelling
import LineEditor.Proofs.Telemetry.Caching
import LineEditor.Proofs.Telemetry.Traces
import LineEditor.Proofs.Telemetry.Uses
import LineEditor.Proofs.Text.Codec
import LineEditor.Proofs.Text.Lines
import LineEditor.Proofs.Text.Listing
import LineEditor.Refusal
import LineEditor.Session
import LineEditor.Shell.Execution
import LineEditor.Shell.Format
import LineEditor.Shell.Machine
import LineEditor.Shell.Request
import LineEditor.Shell.Script
import LineEditor.Shell.Word
import LineEditor.Substitution
import LineEditor.Telemetry.Call
import LineEditor.Telemetry.Datum
import LineEditor.Telemetry.Journal
import LineEditor.Telemetry.Settings
import LineEditor.Telemetry.Store
import LineEditor.Text.Blank
import LineEditor.Text.Case
import LineEditor.Text.CodePoints
import LineEditor.Text.Codec
import LineEditor.Text.Digit
import LineEditor.Text.Identifier
import LineEditor.Text.Letter
import LineEditor.Text.Lines
import LineEditor.Text.Listing
import LineEditor.Text.Numeral
import LineEditor.Text.Parts
import LineEditor.Text.Printable
import LineEditor.Text.Quoted
import LineEditor.Proofs.Command.Accounting
