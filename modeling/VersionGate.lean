import VersionGate.Binding.Binder
import VersionGate.Binding.Converter
import VersionGate.Binding.Slot
import VersionGate.CommaList
import VersionGate.CommandLine.Attempt
import VersionGate.CommandLine.Declaration
import VersionGate.CommandLine.Keyword
import VersionGate.CommandLine.Matcher
import VersionGate.CommandLine.Processor
import VersionGate.CommandLine.Session
import VersionGate.Complaint
import VersionGate.Complaint.Forms
import VersionGate.Environment
import VersionGate.Fault
import VersionGate.Files.Access
import VersionGate.Files.Path
import VersionGate.Files.Sight
import VersionGate.Files.Status
import VersionGate.Files.SystemError
import VersionGate.Files.Tree
import VersionGate.Form
import VersionGate.Gate.Check
import VersionGate.Gate.Options
import VersionGate.Gate.Report
import VersionGate.Gate.Run
import VersionGate.Main
import VersionGate.Number.Decimal
import VersionGate.Number.DecimalOrder
import VersionGate.Number.DecimalSum
import VersionGate.Number.FloatText
import VersionGate.Number.Integer
import VersionGate.Number.Numeral
import VersionGate.Number.Power
import VersionGate.Number.Shortest
import VersionGate.Settings.Basic
import VersionGate.Settings.File
import VersionGate.Settings.Line
import VersionGate.Sorting.Merge
import VersionGate.Sorting.Pending
import VersionGate.Sorting.Run
import VersionGate.Sorting.Search
import VersionGate.Table
import VersionGate.Tally
import VersionGate.Text.Blank
import VersionGate.Text.DecimalDigit
import VersionGate.Text.Hexadecimal
import VersionGate.Text.Lines
import VersionGate.Text.Printable
import VersionGate.Text.Quoted
import VersionGate.Text.Utf8
import VersionGate.Text.Words
import VersionGate.Text.ZeroCharacter
import VersionGate.Value
import VersionGate.Value.Fingerprint
import VersionGate.Value.Order
import VersionGate.Version.Basic
import VersionGate.Version.Comparison
import VersionGate.Version.Construction
import VersionGate.Version.Reader
import VersionGate.Proofs.Binding.IntegerSlots
import VersionGate.Proofs.Binding.Written
import VersionGate.Proofs.CommaList
import VersionGate.Proofs.CommandLine.AlikeBlocks
import VersionGate.Proofs.CommandLine.AttachedValues
import VersionGate.Proofs.CommandLine.Blocks
import VersionGate.Proofs.CommandLine.CallFaults
import VersionGate.Proofs.CommandLine.Calls
import VersionGate.Proofs.CommandLine.Claims
import VersionGate.Proofs.CommandLine.Concatenation
import VersionGate.Proofs.CommandLine.DeclarationOrder
import VersionGate.Proofs.CommandLine.Dialogues
import VersionGate.Proofs.CommandLine.Effects
import VersionGate.Proofs.CommandLine.Failures
import VersionGate.Proofs.CommandLine.Findings
import VersionGate.Proofs.CommandLine.Holdings
import VersionGate.Proofs.CommandLine.Insertion
import VersionGate.Proofs.CommandLine.Loops
import VersionGate.Proofs.CommandLine.Passes
import VersionGate.Proofs.CommandLine.PrefixFree
import VersionGate.Proofs.CommandLine.Recognition
import VersionGate.Proofs.CommandLine.RefusedValues
import VersionGate.Proofs.CommandLine.Runs
import VersionGate.Proofs.CommandLine.Searches
import VersionGate.Proofs.CommandLine.Splitting
import VersionGate.Proofs.CommandLine.Storing
import VersionGate.Proofs.CommandLine.Walks
import VersionGate.Proofs.CommandLine.Writing
import VersionGate.Proofs.Gate.Monotonicity
import VersionGate.Proofs.Gate.Outcomes
import VersionGate.Proofs.Gate.Reports
import VersionGate.Proofs.Gate.Requests
import VersionGate.Proofs.Gate.Sources
import VersionGate.Proofs.Gate.Thresholds
import VersionGate.Proofs.Gate.Transcripts
import VersionGate.Proofs.Gate.UnreadableFiles
import VersionGate.Proofs.Gate.Verdict
import VersionGate.Proofs.Gate.VersionOrder
import VersionGate.Proofs.Number.Digits
import VersionGate.Proofs.Number.IntegerText
import VersionGate.Proofs.Number.PlainDigits
import VersionGate.Proofs.Settings.Failures
import VersionGate.Proofs.Settings.Line
import VersionGate.Proofs.Settings.Loading
import VersionGate.Proofs.Settings.Writing
import VersionGate.Proofs.Table
import VersionGate.Proofs.Text.Decoding
import VersionGate.Proofs.Text.Lines
import VersionGate.Proofs.Text.Trimming
import VersionGate.Proofs.Text.Words
import VersionGate.Proofs.Value
import VersionGate.Proofs.Version.Blanks
import VersionGate.Proofs.Version.Comparison
import VersionGate.Proofs.Version.Fields
import VersionGate.Proofs.Version.Reading
import VersionGate.Proofs.Version.Sorting
import VersionGate.Proofs.Version.Printing
