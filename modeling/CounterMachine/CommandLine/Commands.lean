import CounterMachine.CommandLine.Directory
import CounterMachine.CommandLine.Report
import CounterMachine.Linking
import CounterMachine.Numbering.Explanation

/-!
Contract: the four commands.

Owns: what each command prints, logs and writes, given the text of its source file and what
comes of opening its output.
Numerals are unlimited. `run` opens its output after the run, `link` after linking,
`encode` after linking and before numbering, so that a program without a number leaves
an empty or unfinished output behind.
-/

set_option autoImplicit false

namespace CounterMachine.CommandLine

open Text

/-! ## Sources -/

inductive SourceFailure where
  | faulty (fault : PathFault)
  | unreadable (path : String) (cause : ReadFailure)
  | undecodable (fault : Utf8Fault)
deriving DecidableEq, Repr

def SourceFailure.report : SourceFailure → Report
  | .faulty fault => .ofPathFault fault
  | .unreadable path cause => .ofUnusable ("cannot read " ++ path ++ ": " ++ cause.message path)
  | .undecodable fault => .ofUnusable fault.message

/-- The file that a command reads, `-` for standard input. -/
def Command.source? : Command → Option String
  | .run file _ _ _ | .link file _ | .encode file _ _ => some file
  | .decode _ _ _ _ => none

def Command.destination : Command → Destination
  | .run _ _ _ output | .link _ output | .encode _ _ output | .decode _ _ _ output => output

/-! ## Texts -/

/-- A line without the line feeds at its end, and then one. -/
def outputLine (line : String) : String :=
  String.ofList (line.toList.reverse.dropWhile (· == '\n')).reverse ++ "\n"

def outputLines (lines : List String) : String :=
  String.join (lines.map outputLine)

def integerList (values : List Int) : String :=
  "[" ++ ", ".intercalate (values.map decimal) ++ "]"

def labelTableText (labels : Table Nat) : String :=
  "\x7b" ++
    ", ".intercalate
      (labels.entries.map fun (name, place) => quoted name ++ ": " ++ decimal place) ++
    "\x7d"

def padded (width : Nat) (text : String) : String :=
  text ++ String.ofList (List.replicate (width - text.length) ' ')

def paddedLeft (width : Nat) (text : String) : String :=
  String.ofList (List.replicate (width - text.length) ' ') ++ text

def linkedLine (index : Nat) (body : Instruction Int) : String :=
  let label :=
    match body.label with
    | some name => name ++ ":"
    | none => ""
  let targets := body.operation.jumpTargets ((index : Int) + 1)
  paddedLeft 4 (decimal index) ++ "  " ++ padded 10 label ++ " " ++
    padded 32 body.operation.text ++ "  [" ++ ", ".intercalate (targets.map decimal) ++
    "]  (line " ++ decimal body.line ++ ")\n"

def linkedText (program : Program) : String :=
  String.join (program.zipIdx.map fun (body, index) => linkedLine index body)

def registerText (registers : RegisterFile) : String :=
  "Register values on completion:\n" ++
    String.join (registers.sorted.map fun (name, value) =>
      name ++ ": " ++ decimal value ++ "\n")

/-- Number of binary digits; zero has none. -/
def bitLength (number : Nat) : Nat :=
  if number = 0 then 0 else number.log2 + 1

/-! ## Compiling -/

/-- Goes on with the program of a source text, or reports why it has none. -/
def withProgram (file source : String) (proceed : Program → Report) : Report :=
  match parse .unlimited source file with
  | .error error => .ofFailure (.diagnostic error.diagnostic)
  | .ok tokens =>
      let read : List Message :=
        [.record .debug .parser
            ("parsed " ++ decimal tokens.length ++ " tokens from " ++
              if file.isEmpty then "<string>" else file),
          .record .debug .resolver ("label table: " ++ labelTableText (labelTable tokens))]
      match link .unlimited tokens with
      | .error error => (Report.ofFailure (.diagnostic error.diagnostic)).after read
      | .ok program =>
          (proceed program).after
            (read ++ [.record .debug .resolver
              ("linked " ++ decimal program.length ++ " instructions")])

/-! ## Commands -/

def Event.messages : Event → List Message
  | .traced _ => []
  | .evaluated code value =>
      [.record .debug .expression (code ++ " = " ++ decimal value)]

/-- Logged where a run gets as far as its first instruction. -/
def startMessages (program : Program) (settings : Settings) (arguments : List Int) :
    List Message :=
  if settings.problems.isEmpty && !program.isEmpty then
    [.record .debug .interpreter
      ("running " ++ decimal program.length ++ " instructions with args " ++
        integerList arguments)]
  else []

/-- Report of a run under known settings. -/
def settledRunReport (arguments : List Int) (settings : Settings)
    (output : Output) (program : Program) : Report :=
  let run := program.run .unlimited settings arguments
  let before := startMessages program settings arguments ++ run.events.flatMap Event.messages
  let report : Report :=
    match run.result with
    | .error error => .ofFailure error.failure
    | .ok result =>
        match result.outcome with
        | .halted reason =>
            let text := "halted after " ++ decimal result.steps ++ " steps: " ++ reason
            (Report.deliver { exit := .success, messages := [.record .info .program text] }
              output (registerText result.registers)).after
                [.record .debug .interpreter text]
        | .budgetExceeded =>
            (Report.deliver
              { exit := .budget
                messages := [
                  .plain ("stopped after " ++ decimal result.steps ++
                    " steps without halting (raise --max-steps to run longer)")] }
              output (registerText result.registers)).after
                [.record .warning .interpreter
                  ("Done " ++ decimal result.steps ++ " steps, bailing!")]
  (report.after before).printing (outputLines run.lines)

def runReport (file : String) (arguments : List Nat) (settings : Option Settings)
    (output : Output) (program : Program) : Report :=
  let arguments : List Int := arguments.map Int.ofNat
  let report :=
    match settings with
    | none => Report.ofBreakdown (.missing .stepBudget)
    | some settings => settledRunReport arguments settings output program
  report.after
    [.record .info .program ("running " ++ file ++ " with args " ++ integerList arguments)]

def linkReport (output : Output) (program : Program) : Report :=
  Report.deliver { exit := .success } output (linkedText program)

def encodeReport (explain : Bool) (output : Output) (program : Program) : Report :=
  let ⟨lines, result⟩ :=
    if explain then explainEncoding .unlimited program.tokens
    else .silent (program.encode .unlimited)
  match result with
  | .error error => (Report.ofFailure error.failure).deliver output (outputLines lines)
  | .ok number =>
      Report.deliver
        { exit := .success
          messages := [.record .debug .codec
            ("encoded " ++ decimal program.length ++ " instructions as a " ++
              decimal (bitLength number) ++ "-bit number")] }
        output (if explain then outputLines lines else decimal number ++ "\n")

/-- Report of a decoding with a known exponent. -/
def settledDecodeReport (number exponent : Nat) (explain : Bool) (output : Output) :
    Report :=
  let ⟨lines, result⟩ :=
    if explain then explainDecoding .unlimited number exponent
    else .silent (decode .unlimited number exponent)
  match result with
  | .error error => (Report.ofFailure error.failure).deliver output (outputLines lines)
  | .ok program =>
      Report.deliver
        { exit := .success
          messages := [.record .debug .codec
            ("decoded " ++ decimal program.length ++ " instructions")] }
        output (if explain then outputLines lines else program.text)

/-- The output is opened before the exponent is needed. -/
def decodeReport (number : Nat) (exponent : Option Nat) (explain : Bool)
    (output : Output) : Report :=
  match exponent with
  | none => (Report.ofBreakdown (.missing .startExponent)).deliver output ""
  | some exponent => settledDecodeReport number exponent explain output

/-- Report of a command that is given its source and its output. -/
def Command.report (output : Output) (source : String) : Command → Report
  | .run file arguments settings _ =>
      withProgram file source (runReport file arguments settings output)
  | .link file _ => withProgram file source (linkReport output)
  | .encode file explain _ => withProgram file source (encodeReport explain output)
  | .decode number exponent explain _ => decodeReport number exponent explain output

end CounterMachine.CommandLine
