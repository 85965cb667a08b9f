import BracketTint.CommandLine.Arguments
import BracketTint.CommandLine.Files
import BracketTint.CommandLine.Run
import BracketTint.Config.Basic
import BracketTint.Config.Decode
import BracketTint.Config.Load
import BracketTint.Config.Validate
import BracketTint.Document.Basic
import BracketTint.Document.Colors
import BracketTint.Document.Update
import BracketTint.Main
import BracketTint.Position
import BracketTint.Proofs.Backlog
import BracketTint.Proofs.Call
import BracketTint.Proofs.Coherence
import BracketTint.Proofs.Coloring
import BracketTint.Proofs.Cycles
import BracketTint.Proofs.Debouncing
import BracketTint.Proofs.Faults
import BracketTint.Proofs.Grouping
import BracketTint.Proofs.Handover
import BracketTint.Proofs.Host
import BracketTint.Proofs.Independence
import BracketTint.Proofs.Integrity
import BracketTint.Proofs.Lexical
import BracketTint.Proofs.Merging
import BracketTint.Proofs.Nesting
import BracketTint.Proofs.Opacity
import BracketTint.Proofs.Order
import BracketTint.Proofs.Pairing
import BracketTint.Proofs.Quoting
import BracketTint.Proofs.Ranges
import BracketTint.Proofs.Relocation
import BracketTint.Proofs.Reopening
import BracketTint.Proofs.Revision
import BracketTint.Proofs.Rows
import BracketTint.Proofs.Scan
import BracketTint.Proofs.Schemes
import BracketTint.Proofs.Session
import BracketTint.Proofs.Settling
import BracketTint.Proofs.Shift
import BracketTint.Proofs.Slot
import BracketTint.Proofs.Splice
import BracketTint.Proofs.Strays
import BracketTint.Proofs.Table
import BracketTint.Proofs.Unclosed
import BracketTint.Proofs.Update
import BracketTint.Proofs.Validation
import BracketTint.Proofs.Workspace
import BracketTint.Region
import BracketTint.Report
import BracketTint.Scan.Bracket
import BracketTint.Scan.Nest
import BracketTint.Scan.Row
import BracketTint.Scheme
import BracketTint.Splice
import BracketTint.Table
import BracketTint.Text.Blank
import BracketTint.Text.File
import BracketTint.Text.Hidden
import BracketTint.Text.Lines
import BracketTint.Text.Plain
import BracketTint.Text.Quoted
import BracketTint.Toml.Document
import BracketTint.Toml.Failure
import BracketTint.Toml.Number
import BracketTint.Toml.Text
import BracketTint.Toml.Value
import BracketTint.Update.Backlog
import BracketTint.Update.Ticket
import BracketTint.Update.Timer
import BracketTint.Word
import BracketTint.Workspace.Basic
import BracketTint.Workspace.Events
