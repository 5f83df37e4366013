import CounterMachine.CommandLine.Directory
import CounterMachine.CommandLine.Request
import CounterMachine.Failure

/-!
Contract: what a command tells its caller.

Owns: log records and their form, the messages on standard error, the ways to end with their
exit codes, and the report that gathers them with standard output and a written file.
-/

set_option autoImplicit false

namespace CounterMachine.CommandLine

inductive Level where
  | debug
  | info
  | warning
  | error
deriving DecidableEq, Repr

/-- Five characters wide. -/
def Level.text : Level → String
  | .debug => "DEBUG"
  | .info => "INFO "
  | .warning => "WARNI"
  | .error => "ERROR"

/-- How often the user has to ask before a record is shown. -/
def Level.verbosity : Level → Nat
  | .debug => 2
  | .info => 1
  | .warning | .error => 0

/-- Parts of the program that log under a name of their own. -/
inductive Logger where
  | program
  | parser
  | resolver
  | interpreter
  | expression
  | codec
deriving DecidableEq, Repr

def Logger.text : Logger → String
  | .program => programName
  | .parser => programName ++ ".parser"
  | .resolver => programName ++ ".resolver"
  | .interpreter => programName ++ ".interpreter"
  | .expression => programName ++ ".expression"
  | .codec => programName ++ ".codec"

inductive Message where
  | record (level : Level) (logger : Logger) (text : String)
  | plain (text : String)

def Message.render : Message → String
  | .record level logger text =>
      "[" ++ level.text ++ "] " ++ logger.text ++ ": " ++ text ++ "\n"
  | .plain text => text ++ "\n"

def Message.isShown (verbosity : Nat) : Message → Bool
  | .record level _ _ => level.verbosity ≤ verbosity
  | .plain _ => true

/-- A value that a command needs although its switch was given without one. -/
inductive MissingValue where
  | stepBudget
  | startExponent
  | outputPath
deriving DecidableEq, Repr

def MissingValue.message : MissingValue → String
  | .stepBudget => "no step budget is given"
  | .startExponent => "no start exponent is given"
  | .outputPath => "no output path is given"

/-- Why the file for the output cannot be opened. -/
def OpenFailure.message : OpenFailure → String
  | .fileExists => "the output cannot be opened: a file is in the place of its directory"
  | .notADirectory => "the output cannot be opened: a file is in the place of a directory above it"
  | .isADirectory => "the output cannot be opened: a directory is in its place"
  | .nameTooLong => "the output cannot be opened: its name is too long"
  | .tooDeep => "the output cannot be opened: too many directories above it are missing"

/-- Why a command breaks down: nobody foresaw that it could not go on here. -/
inductive Breakdown where
  | missing (value : MissingValue)
  | homeUnknown
  | blocked (cause : OpenFailure)
deriving DecidableEq, Repr

def Breakdown.message : Breakdown → String
  | .missing value => value.message
  | .homeUnknown => "the home directory is not known"
  | .blocked cause => cause.message

inductive Exit where
  | success
  /-- The program or the number was refused. -/
  | failure
  /-- A file or an argument could not be used. -/
  | unusable
  /-- The step budget was used up before the program halted. -/
  | budget
  | breakdown (cause : Breakdown)
deriving DecidableEq, Repr

/-- The code that a call returns with. A command that breaks down does not return. -/
def Exit.code : Exit → Option Nat
  | .success => some 0
  | .failure => some 1
  | .unusable => some 2
  | .budget => some 3
  | .breakdown _ => none

/-- Status of the whole program when it ends. -/
def Exit.status (exit : Exit) : Nat :=
  exit.code.getD 1

/-- What comes of a path for the output. -/
inductive Output where
  | standardOutput
  /-- A file that is open for writing. -/
  | file (location : Location)
  | faulty (fault : PathFault)
  | blocked (blockage : Blockage)
  | missing
deriving DecidableEq, Repr

/-- What becomes of the files: nothing, a file that was opened holds a text, or a directory was
made on the way to a file that could not be opened. -/
inductive FileChange where
  | unchanged
  | written (location : Location) (text : String)
  | blocked (reached : Location)
deriving DecidableEq, Repr

structure Report where
  exit : Exit
  output : String := ""
  messages : List Message := []
  files : FileChange := .unchanged

def Report.standardError (verbosity : Nat) (report : Report) : String :=
  String.join ((report.messages.filter (·.isShown verbosity)).map Message.render)

/-- A report with messages that came before it. -/
def Report.after (report : Report) (messages : List Message) : Report :=
  { report with messages := messages ++ report.messages }

def Report.printing (report : Report) (text : String) : Report :=
  { report with output := text ++ report.output }

def Report.ofUnusable (text : String) : Report where
  exit := .unusable
  messages := [.record .error .program text]

def Report.ofBreakdown (cause : Breakdown) : Report where
  exit := .breakdown cause
  messages := [.plain cause.message]

/-- Diagnostics are reported as such, other failures are logged. -/
def Report.ofFailure : Failure → Report
  | .diagnostic diagnostic => { exit := .failure, messages := [.plain diagnostic.render] }
  | .violation cause => .ofUnusable cause.message

def Report.ofPathFault : PathFault → Report
  | .nullCharacter => .ofUnusable "embedded null byte"
  | .homeUnknown => .ofBreakdown .homeUnknown

/-- Sends text to the output that was asked for. What the report tells comes after the output
has been opened, so it is lost where that fails. -/
def Report.deliver (report : Report) (output : Output) (text : String) : Report :=
  match output with
  | .standardOutput => { report with output := report.output ++ text }
  | .file location => { report with files := .written location text }
  | .faulty fault => .ofPathFault fault
  | .blocked ⟨cause, reached⟩ =>
      { Report.ofBreakdown (.blocked cause) with files := .blocked reached }
  | .missing => .ofBreakdown (.missing .outputPath)

end CounterMachine.CommandLine
