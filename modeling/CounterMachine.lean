import CounterMachine.CommandLine.Arguments
import CounterMachine.CommandLine.Commands
import CounterMachine.CommandLine.Directory
import CounterMachine.CommandLine.FilePath
import CounterMachine.CommandLine.Invocation
import CounterMachine.CommandLine.Report
import CounterMachine.CommandLine.Request
import CounterMachine.Diagnostic
import CounterMachine.Expression.Basic
import CounterMachine.Expression.Reader
import CounterMachine.Expression.Value
import CounterMachine.Failure
import CounterMachine.Instruction
import CounterMachine.Linking
import CounterMachine.Listing
import CounterMachine.Machine.Basic
import CounterMachine.Machine.Run
import CounterMachine.Main
import CounterMachine.Numbering.Code
import CounterMachine.Numbering.Derivation
import CounterMachine.Numbering.Error
import CounterMachine.Numbering.Explanation
import CounterMachine.Numbering.Pairing
import CounterMachine.Proofs.Agreement
import CounterMachine.Proofs.Diagnostic
import CounterMachine.Proofs.Expression.CaseFolding
import CounterMachine.Proofs.Expression.Combinators
import CounterMachine.Proofs.Expression.Completeness
import CounterMachine.Proofs.Expression.Grammar
import CounterMachine.Proofs.Expression.Language
import CounterMachine.Proofs.Expression.Lexemes
import CounterMachine.Proofs.Expression.Meaning
import CounterMachine.Proofs.Expression.Soundness
import CounterMachine.Proofs.Expression.Unambiguity
import CounterMachine.Proofs.Failures
import CounterMachine.Proofs.LetterCase
import CounterMachine.Proofs.Limits
import CounterMachine.Proofs.Linking
import CounterMachine.Proofs.Linking.CaseFolding
import CounterMachine.Proofs.Linking.LabelJumps
import CounterMachine.Proofs.Linking.Positions
import CounterMachine.Proofs.Linking.Resolution
import CounterMachine.Proofs.Listing.Listable
import CounterMachine.Proofs.Listing.RoundTrip
import CounterMachine.Proofs.Listing.Written
import CounterMachine.Proofs.Machine.Agreement
import CounterMachine.Proofs.Machine.Budget
import CounterMachine.Proofs.Machine.CaseFolding
import CounterMachine.Proofs.Machine.ControlFlow
import CounterMachine.Proofs.Machine.Invariant
import CounterMachine.Proofs.Machine.Lockstep
import CounterMachine.Proofs.Machine.Recorded
import CounterMachine.Proofs.Machine.Refinement
import CounterMachine.Proofs.Machine.Running
import CounterMachine.Proofs.Machine.Semantics
import CounterMachine.Proofs.Machine.Simulation
import CounterMachine.Proofs.Machine.TraceLines
import CounterMachine.Proofs.Machine.Tracing
import CounterMachine.Proofs.Machine.UnreachedCode
import CounterMachine.Proofs.Machine.UnsetRegisters
import CounterMachine.Proofs.Machine.Violations
import CounterMachine.Proofs.Machine.Visits
import CounterMachine.Proofs.Numbering.Concatenation
import CounterMachine.Proofs.Numbering.ListCode
import CounterMachine.Proofs.Numbering.ListReading
import CounterMachine.Proofs.Numbering.Operations
import CounterMachine.Proofs.Numbering.PairDomains
import CounterMachine.Proofs.Numbering.Pairing
import CounterMachine.Proofs.Numbering.Programs
import CounterMachine.Proofs.Numbering.Refusals
import CounterMachine.Proofs.Numbering.Spelling
import CounterMachine.Proofs.Numbering.Unnumbered
import CounterMachine.Proofs.Sequencing
import CounterMachine.Proofs.Source.Bounds
import CounterMachine.Proofs.Source.CaseFolding
import CounterMachine.Proofs.Source.FoldedTokens
import CounterMachine.Proofs.Source.Fronts
import CounterMachine.Proofs.Source.Items
import CounterMachine.Proofs.Source.Lexemes
import CounterMachine.Proofs.Source.Lines
import CounterMachine.Proofs.Source.Locations
import CounterMachine.Proofs.Source.Names
import CounterMachine.Proofs.Source.Operands
import CounterMachine.Proofs.Source.Scanning
import CounterMachine.Proofs.Text.AsciiLetters
import CounterMachine.Proofs.Text.CaseFolding
import CounterMachine.Proofs.Text.Decimal
import CounterMachine.Proofs.Text.LowerCase
import CounterMachine.Proofs.Text.WhiteSpace
import CounterMachine.RegisterName
import CounterMachine.Registers
import CounterMachine.Source.Item
import CounterMachine.Source.Reader
import CounterMachine.Source.Tokens
import CounterMachine.Table
import CounterMachine.Text.CodeRanges
import CounterMachine.Text.DecimalDigit
import CounterMachine.Text.Digits
import CounterMachine.Text.Integer
import CounterMachine.Text.LetterCase
import CounterMachine.Text.Numeral
import CounterMachine.Text.Printable
import CounterMachine.Text.Quoted
import CounterMachine.Text.Utf8
import CounterMachine.Text.WhiteSpace
import CounterMachine.Text.Word
import CounterMachine.Violation
import CounterMachine.Proofs.RegisterNames
import CounterMachine.Proofs.CommandLine.Words
import CounterMachine.Proofs.Text.Integer
import CounterMachine.Proofs.Text.Utf8
import CounterMachine.Proofs.CommandLine.Reports
import CounterMachine.Proofs.CommandLine.Requests
import CounterMachine.Proofs.CommandLine.Files
import CounterMachine.Proofs.CommandLine.Outputs
import CounterMachine.Proofs.CommandLine.RoundTrip
import CounterMachine.Proofs.CommandLine.Running
import CounterMachine.Proofs.Source.Unparsed
import CounterMachine.Proofs.Linking.Appending
import CounterMachine.Proofs.Machine.Conservation
import CounterMachine.Proofs.Expression.Columns
