import CounterMachine.Proofs.CommandLine.Files
import CounterMachine.Proofs.CommandLine.Reports
import CounterMachine.Proofs.Numbering.Explanations
import CounterMachine.Proofs.Numbering.Programs

/-!
Contract: the files after a call that fails.

Owns: which failing commands have opened their output by the time at which they fail, and what is
in it then.

Does not own: the output of commands that succeed or use up their budget.

## When an output is opened

A run and a link open their output after everything that can be refused, and a decoding refuses
no number. An encoding opens its output before it looks for the number, so it is the one command
that can leave an output behind without a result.
-/

set_option autoImplicit false

namespace CounterMachine.CommandLine

open Text

/-! ## Outputs of failures -/

/-- One is the code of a failure and of nothing else. -/
theorem Exit.code_eq_one_iff {exit : Exit} : exit.code = some 1 ↔ exit = .failure := by
  cases exit <;> simp [code]

/-- If the report is of a failure, no file has been opened for output. -/
def Report.KeepsFiles (report : Report) : Prop :=
  report.exit = .failure → report.files = .unchanged

theorem Report.KeepsFiles.after {report : Report} (keeps : report.KeepsFiles)
    (messages : List Message) : (report.after messages).KeepsFiles :=
  keeps

theorem Report.KeepsFiles.printing {report : Report} (keeps : report.KeepsFiles) (text : String) :
    (report.printing text).KeepsFiles :=
  keeps

theorem Report.files_ofFailure (failure : Failure) :
    (Report.ofFailure failure).files = .unchanged := by
  cases failure with
  | diagnostic diagnostic => rfl
  | violation cause => rfl

theorem Report.keepsFiles_ofFailure (failure : Failure) : (Report.ofFailure failure).KeepsFiles :=
  fun _ => files_ofFailure failure

theorem Report.exit_ofPathFault_ne (fault : PathFault) :
    (Report.ofPathFault fault).exit ≠ .failure := by
  cases fault <;> nofun

theorem SourceFailure.exit_report_ne (failure : SourceFailure) : failure.report.exit ≠ .failure := by
  cases failure with
  | faulty fault => exact Report.exit_ofPathFault_ne fault
  | unreadable path cause | undecodable fault => nofun

/-- Delivery fails in ways of its own. -/
theorem Report.exit_of_deliver {report : Report} {output : Output} {text : String}
    (failed : (report.deliver output text).exit = .failure) : report.exit = .failure := by
  cases output with
  | standardOutput | file location => exact failed
  | faulty fault => exact absurd failed (exit_ofPathFault_ne fault)
  | blocked blockage | missing => cases failed

/-- What is delivered for a failure is in the file that was opened. -/
theorem Report.files_deliver {report : Report} {output : Output} {text : String}
    (failed : (report.deliver output text).exit = .failure) (kept : report.files = .unchanged) :
    (report.deliver output text).files =
      match output with
      | .file location => .written location text
      | _ => .unchanged := by
  cases output with
  | standardOutput => exact kept
  | file location => rfl
  | faulty fault => exact absurd failed (exit_ofPathFault_ne fault)
  | blocked blockage | missing => cases failed

theorem Report.keepsFiles_deliver {report : Report} (output : Output) (text : String)
    (other : report.exit ≠ .failure) : (report.deliver output text).KeepsFiles :=
  fun failed => absurd (exit_of_deliver failed) other

/-! ## Commands -/

section Commands

variable {program : Program} {file source : String}

private theorem keepsFiles_settledRunReport (arguments : List Int) (settings : Settings)
    (output : Output) (program : Program) :
    (settledRunReport arguments settings output program).KeepsFiles := by
  unfold settledRunReport
  apply Report.KeepsFiles.printing
  apply Report.KeepsFiles.after
  split
  · exact Report.keepsFiles_ofFailure _
  · split
    · exact (Report.keepsFiles_deliver output _ (by nofun)).after _
    · exact (Report.keepsFiles_deliver output _ (by nofun)).after _

private theorem keepsFiles_runReport (file : String) (arguments : List Nat)
    (settings : Option Settings) (output : Output) (program : Program) :
    (runReport file arguments settings output program).KeepsFiles := by
  unfold runReport
  apply Report.KeepsFiles.after
  cases settings with
  | none => exact fun _ => rfl
  | some settings => exact keepsFiles_settledRunReport _ settings output program

private theorem keepsFiles_linkReport (output : Output) (program : Program) :
    (linkReport output program).KeepsFiles :=
  Report.keepsFiles_deliver output _ (by nofun)

/-- Numbers are decoded without fail. -/
private theorem keepsFiles_decodeReport (number : Nat) (exponent : Option Nat) (explain : Bool)
    (output : Output) : (decodeReport number exponent explain output).KeepsFiles := by
  cases exponent with
  | none => exact Report.keepsFiles_deliver output _ (by nofun)
  | some exponent =>
      have decoded := decode_natCast number exponent
      have explained := (result_explainDecoding number exponent).trans decoded
      cases explain with
      | false =>
          simp only [decodeReport, settledDecodeReport, Bool.false_eq_true, if_false,
            Derivation.silent, decoded]
          exact Report.keepsFiles_deliver output _ (by nofun)
      | true =>
          simp only [decodeReport, settledDecodeReport, if_true, explained]
          exact Report.keepsFiles_deliver output _ (by nofun)

private theorem keepsFiles_withProgram {proceed : Program → Report}
    (keeps : ∀ program, (proceed program).KeepsFiles) :
    (withProgram file source proceed).KeepsFiles := by
  cases compiled : compile .unlimited source file with
  | error error =>
      obtain ⟨messages, -, reported⟩ := withProgram_of_error proceed compiled
      rw [reported]
      exact (Report.keepsFiles_ofFailure _).after messages
  | ok program =>
      obtain ⟨messages, -, reported⟩ := withProgram_of_ok proceed compiled
      rw [reported]
      exact (keeps program).after messages

/-! ## Encodings -/

/-- What an encoding has written when it is found out whether there is a number. -/
def writtenBefore (explain : Bool) (program : Program) : String :=
  if explain then outputLines (explainEncoding .unlimited program.tokens).lines else ""

private theorem encodeReport_of_error {error : EncodeError}
    (refused : program.encode .unlimited = .error error) (explain : Bool) (output : Output) :
    encodeReport explain output program =
      (Report.ofFailure error.failure).deliver output (writtenBefore explain program) := by
  cases explain with
  | false =>
      simp only [encodeReport, writtenBefore, Bool.false_eq_true, if_false, Derivation.silent,
        refused]
      rfl
  | true =>
      have explained := (result_explainEncoding program).trans refused
      simp only [encodeReport, writtenBefore, if_true, explained]

private theorem keepsFiles_encodeReport_of_ok {number : Nat}
    (numbered : program.encode .unlimited = .ok number) (explain : Bool) (output : Output) :
    (encodeReport explain output program).KeepsFiles := by
  cases explain with
  | false =>
      simp only [encodeReport, Bool.false_eq_true, if_false, Derivation.silent, numbered]
      exact Report.keepsFiles_deliver output _ (by nofun)
  | true =>
      have explained := (result_explainEncoding program).trans numbered
      simp only [encodeReport, if_true, explained]
      exact Report.keepsFiles_deliver output _ (by nofun)

end Commands

/-- The command opens the file at a location, writes a text to it and then fails: it is to put the
number of a program there that has been read and linked and has no number. -/
inductive LeavesBehind (directory : Directory) (input : String) :
    Command → Location → String → Prop where
  | encode {file source output : String} {path : FilePath} {location : Location}
      {program : Program} {error : EncodeError} (explain : Bool)
      (read : readSource directory input file = .ok source)
      (linked : compile .unlimited source file = .ok program)
      (expanded : directory.expand (.ofText output) = .ok path)
      (located : directory.locate path = location) (admitted : directory.Admits location)
      (refused : program.encode .unlimited = .error error) :
      LeavesBehind directory input (.encode file explain (.file output)) location
        (writtenBefore explain program)

section Calls

variable {directory : Directory} {input : String}

private theorem perform_of_refused {file source : String} {program : Program} {error : EncodeError}
    (explain : Bool) (destination : Destination)
    (read : readSource directory input file = .ok source)
    (linked : compile .unlimited source file = .ok program)
    (refused : program.encode .unlimited = .error error) :
    ∃ messages, (Command.encode file explain destination).perform directory input =
      ((Report.ofFailure error.failure).deliver (directory.outputOf destination)
        (writtenBefore explain program)).after messages := by
  obtain ⟨messages, -, performed⟩ := perform_encode_of_ok read linked explain destination
  rw [encodeReport_of_error refused] at performed
  exact ⟨messages, performed⟩

theorem LeavesBehind.files {command : Command} {location : Location} {text : String}
    (leaves : LeavesBehind directory input command location text)
    (failed : (command.perform directory input).exit = .failure) :
    (command.perform directory input).files = .written location text := by
  cases leaves with
  | @encode file source output path location program error explain read linked expanded located
      admitted refused =>
      have opened := Directory.outputOf_eq_file_iff.mpr ⟨path, expanded, located, admitted⟩
      obtain ⟨messages, performed⟩ := perform_of_refused explain (.file output) read linked refused
      rw [opened] at performed
      rw [performed]
      rfl

/-- Only a path is opened as a file. -/
private theorem exists_file_of_outputOf {destination : Destination} {location : Location}
    (opened : directory.outputOf destination = .file location) :
    ∃ file, destination = .file file := by
  cases destination with
  | standardOutput | missing => cases opened
  | file file => exact ⟨file, rfl⟩

private theorem files_of_encode {file source : String} {explain : Bool} {destination : Destination}
    (read : readSource directory input file = .ok source)
    (failed : ((Command.encode file explain destination).perform directory input).exit =
      .failure) :
    ((Command.encode file explain destination).perform directory input).files = .unchanged ∨
      ∃ location text,
        LeavesBehind directory input (.encode file explain destination) location text := by
  cases linked : compile .unlimited source file with
  | error error =>
      obtain ⟨messages, -, reported⟩ :=
        withProgram_of_error (encodeReport explain (directory.outputOf destination)) linked
      have performed : (Command.encode file explain destination).perform directory input = _ :=
        (perform_of_read rfl read).trans reported
      rw [performed]
      exact .inl (Report.files_ofFailure _)
  | ok program =>
      cases numbered : program.encode .unlimited with
      | ok number =>
          obtain ⟨messages, -, performed⟩ := perform_encode_of_ok read linked explain destination
          rw [performed] at failed ⊢
          exact .inl ((keepsFiles_encodeReport_of_ok numbered explain _).after messages failed)
      | error error =>
          obtain ⟨messages, performed⟩ :=
            perform_of_refused explain destination read linked numbered
          cases opened : directory.outputOf destination with
          | file location =>
              obtain ⟨output, rfl⟩ := exists_file_of_outputOf opened
              obtain ⟨path, expanded, located, admitted⟩ :=
                Directory.outputOf_eq_file_iff.mp opened
              exact .inr ⟨location, _,
                .encode explain read linked expanded located admitted numbered⟩
          | standardOutput | faulty fault | blocked blockage | missing =>
              rw [opened] at performed
              rw [performed] at failed ⊢
              exact .inl (Report.files_deliver failed (Report.files_ofFailure _))

/-- A command that fails has opened no output, unless it leaves one behind. -/
theorem files_of_failure {command : Command}
    (failed : (command.perform directory input).exit = .failure) :
    (command.perform directory input).files = .unchanged ∨
      ∃ location text, LeavesBehind directory input command location text := by
  cases reads : command.source? with
  | none =>
      cases command with
      | decode number exponent explain destination =>
          exact .inl (keepsFiles_decodeReport number exponent explain _ failed)
      | run file arguments settings destination | link file destination
      | encode file explain destination =>
          cases reads
  | some file =>
      cases read : readSource directory input file with
      | error failure =>
          have performed : command.perform directory input = failure.report := by
            simp only [Command.perform, reads, read]
          rw [performed] at failed
          exact absurd failed (SourceFailure.exit_report_ne failure)
      | ok source =>
          have performed := perform_of_read reads read
          cases command with
          | run file arguments settings destination =>
              rw [performed] at failed ⊢
              exact .inl (keepsFiles_withProgram
                (keepsFiles_runReport file arguments settings _) failed)
          | link file destination =>
              rw [performed] at failed ⊢
              exact .inl (keepsFiles_withProgram (keepsFiles_linkReport _) failed)
          | encode file explain destination =>
              cases reads
              exact files_of_encode read failed
          | decode number exponent explain destination => cases reads

/-- A call that returns one asks for a command. The files stay as they are, unless the command
leaves its output behind: then that file holds what has been written of it, and the others
stay. -/
theorem invoke_failure_files {arguments : List String}
    (failed : (invoke directory arguments input).1.exit.code = some 1) :
    let files := (invoke directory arguments input).2
    ∃ verbosity command, Request.ofArguments arguments = .perform verbosity command ∧
      ((¬ ∃ location text, LeavesBehind directory input command location text) →
        files = directory) ∧
      ∀ written text, LeavesBehind directory input command written text →
        ∀ location, files.file? location =
          if location = written ∧ location ≠ nullDevice then some text.toUTF8.toList
          else directory.file? location := by
  intro files
  rw [Exit.code_eq_one_iff] at failed
  cases asked : Request.ofArguments arguments with
  | help usage | version | noCommand | complaint usage line =>
      simp only [invoke, asked] at failed
      cases failed
  | perform verbosity command =>
      have stored : files = directory.store (command.perform directory input).files := by
        simp only [files, invoke, asked]
      simp only [invoke, asked] at failed
      refine ⟨verbosity, command, rfl, ?_, ?_⟩
      · intro none
        have unchanged := (files_of_failure failed).resolve_right none
        rw [stored, unchanged]
        rfl
      · intro written text leaves location
        rw [stored, leaves.files failed]
        exact directory.file?_write written text.toUTF8.toList location

end Calls

/-- A program that jumps to an unknown label is not linked, and the file that was to hold its
linked form is kept. -/
theorem invoke_failure_files_unlinked :
    let directory : Directory := { files := [(["out.txt"], "2\n".toUTF8.toList)] }
    let call := invoke directory ["link", "-", "-o", "out.txt"] "r0+ -> end\n"
    call.1.exit.code = some 1 ∧ call.2 = directory := by
  intro directory call
  have failed : call.1.exit.code = some 1 := rfl
  obtain ⟨verbosity, command, asked, kept, -⟩ := invoke_failure_files failed
  have asksLink : Request.ofArguments ["link", "-", "-o", "out.txt"] =
      .perform 0 (.link "-" (.file "out.txt")) := rfl
  rw [asksLink] at asked
  cases asked
  refine ⟨failed, kept ?_⟩
  rintro ⟨location, text, leaves⟩
  cases leaves

/-- The program has no number, and yet the file that was to hold the number comes into being. -/
theorem invoke_encode_leaves_file :
    let directory : Directory := {}
    let call := invoke directory ["encode", "-", "-o", "out.txt"] "init r0 1\n"
    call.1 = .report .failure "" "1: error: init instructions have no number [RM-4001]\n" ∧
      call.1.exit.code = some 1 ∧
      directory.file? ["out.txt"] = none ∧ call.2.file? ["out.txt"] = some [] := by
  intro directory call
  have stored : call.2 = { files := [(["out.txt"], "".toUTF8.toList)] } := rfl
  refine ⟨rfl, rfl, rfl, ?_⟩
  rw [stored, toList_toUTF8]
  rfl

end CounterMachine.CommandLine
