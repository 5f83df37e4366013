import CounterMachine.Proofs.CommandLine.Reports
import CounterMachine.Proofs.CommandLine.Requests
import CounterMachine.Proofs.Machine.Agreement
import CounterMachine.Proofs.Machine.Violations
import Mathlib.Data.List.DropRight

/-!
Contract: the run command tells what a run of the program in a file comes to.

Owns: the form of printed lines and of printed registers, how each of the ends that compiling and
running can have is told by the code returned, the output and the error text, and that every command line that
asks for a run without an output file is answered in this way.

Does not own: runs whose registers are written to a file.
-/

set_option autoImplicit false

namespace CounterMachine.CommandLine

open Text

/-! ## Printed lines -/

/-- The line is printed without the line feeds at its end, and then with one. -/
def PrintedAs (line printed : String) : Prop :=
  ∃ kept lineFeeds : List Char, line.toList = kept ++ lineFeeds ∧
    (∀ character ∈ lineFeeds, character = '\n') ∧ kept.getLast? ≠ some '\n' ∧
    printed.toList = kept ++ ['\n']

theorem printedAs_outputLine (line : String) : PrintedAs line (outputLine line) := by
  refine ⟨line.toList.rdropWhile (· == '\n'), line.toList.rtakeWhile (· == '\n'),
    List.rdropWhile_append_rtakeWhile.symm, ?_, ?_, ?_⟩
  · intro character member
    have lineFeed : (character == '\n') = true :=
      @List.mem_rtakeWhile_imp _ (· == '\n') _ _ member
    exact beq_iff_eq.mp lineFeed
  · intro last
    have nonempty : line.toList.rdropWhile (· == '\n') ≠ [] := by
      rintro empty
      rw [empty] at last
      cases last
    rw [List.getLast?_eq_some_getLast nonempty, Option.some.injEq] at last
    have other := List.rdropWhile_last_not (· == '\n') line.toList nonempty
    rw [last] at other
    exact other rfl
  · rw [outputLine, String.toList_append, String.toList_ofList]
    rfl

/-- The lines are printed one by one. -/
def PrintedLines (lines : List String) (output : String) : Prop :=
  ∃ printed : List String, List.Forall₂ PrintedAs lines printed ∧ output = String.join printed

theorem printedLines_outputLines (lines : List String) :
    PrintedLines lines (outputLines lines) := by
  refine ⟨lines.map outputLine, ?_, rfl⟩
  rw [List.forall₂_map_right_iff, List.forall₂_same]
  exact fun line _ => printedAs_outputLine line

/-! ## Printed registers -/

/-- The registers are printed under their heading, one by one in the order of their names. -/
def PrintedRegisters (registers : RegisterFile) (output : String) : Prop :=
  ∃ entries : List (String × Int), entries.Perm registers.entries ∧
    entries.Pairwise (fun earlier later => earlier.1 < later.1) ∧
    output = "Register values on completion:\n" ++
      String.join (entries.map fun (name, value) => name ++ ": " ++ decimal value ++ "\n")

private theorem pairwise_sorted (registers : RegisterFile) :
    registers.sorted.Pairwise fun earlier later => earlier.1 < later.1 := by
  have distinct : (registers.sorted.map Prod.fst).Nodup :=
    ((List.mergeSort_perm registers.entries _).map Prod.fst).nodup_iff.mpr registers.table.distinct
  have ordered : registers.sorted.Pairwise fun earlier later =>
      decide (earlier.1 ≤ later.1) = true := by
    refine List.pairwise_mergeSort ?_ ?_ registers.entries
    · intro first second third low high
      rw [decide_eq_true_eq] at low high ⊢
      exact String.le_trans low high
    · intro first second
      rw [Bool.or_eq_true, decide_eq_true_eq, decide_eq_true_eq]
      exact String.le_total first.1 second.1
  refine (ordered.and (List.pairwise_map.mp distinct)).imp ?_
  rintro earlier later ⟨inOrder, different⟩
  exact Std.lt_of_le_of_ne (of_decide_eq_true inOrder) different

theorem printedRegisters_registerText (registers : RegisterFile) :
    PrintedRegisters registers (registerText registers) :=
  ⟨registers.sorted, List.mergeSort_perm registers.entries _, pairwise_sorted registers, rfl⟩

/-! ## Ends of a run -/

/-- Code of a run that returns. -/
def codeOf : Outcome → Nat
  | .halted _ => 0
  | .budgetExceeded => 3

/-- What a call tells of the run of a program, which was compiled or refused: the code that it
returns, its output and the text on standard error, for each of the ends that there can be. -/
inductive TellsRun (compiled : Except CompileError Program) (settings : Settings)
    (arguments : List Int) : Nat → String → String → Prop where
  | refused {error : CompileError} {standardError : String} (refused : compiled = .error error)
      (reported : EndsWith standardError error.diagnostic) :
      TellsRun compiled settings arguments 1 "" standardError
  | unusable {program : Program} {standardError : String} (accepted : compiled = .ok program)
      (noBudget : settings.maxSteps ≤ 0) :
      TellsRun compiled settings arguments 2 "" standardError
  | failed {program : Program} {error : RunError} {diagnostic : Diagnostic}
      {traced standardError : String} (accepted : compiled = .ok program)
      (budget : 0 < settings.maxSteps)
      (failed : (program.run .unlimited settings arguments).result = .error error)
      (cause : error.failure = .diagnostic diagnostic) (runtime : diagnostic.family = .runtime)
      (lines : PrintedLines (program.run .unlimited settings arguments).lines traced)
      (reported : EndsWith standardError diagnostic) :
      TellsRun compiled settings arguments 1 traced standardError
  | returned {program : Program} {result : RunResult} {traced registers standardError : String}
      (accepted : compiled = .ok program) (budget : 0 < settings.maxSteps)
      (returned : (program.run .unlimited settings arguments).result = .ok result)
      (lines : PrintedLines (program.run .unlimited settings arguments).lines traced)
      (values : PrintedRegisters result.registers registers) :
      TellsRun compiled settings arguments (codeOf result.outcome) (traced ++ registers)
        standardError

section Reports

variable {program : Program} {settings : Settings} {arguments : List Int}

private theorem settledRunReport_of_error {error : RunError}
    (failed : (program.run .unlimited settings arguments).result = .error error) :
    ∃ messages, settledRunReport arguments settings .standardOutput program =
      ((Report.ofFailure error.failure).after messages).printing
        (outputLines (program.run .unlimited settings arguments).lines) := by
  simp only [settledRunReport, failed]
  exact ⟨_, rfl⟩

private theorem settledRunReport_of_ok {result : RunResult}
    (returned : (program.run .unlimited settings arguments).result = .ok result) :
    ∃ exit messages, exit.code = some (codeOf result.outcome) ∧
      settledRunReport arguments settings .standardOutput program =
        { exit
          output := outputLines (program.run .unlimited settings arguments).lines ++
            registerText result.registers
          messages } := by
  simp only [settledRunReport, returned]
  cases result.outcome with
  | halted reason => exact ⟨_, _, rfl, rfl⟩
  | budgetExceeded => exact ⟨_, _, rfl, rfl⟩

private theorem run_of_no_budget (noBudget : settings.maxSteps ≤ 0) :
    program.run .unlimited settings arguments = ⟨[], .error (.violation .budgetNotPositive)⟩ :=
  program.run_eq_of_budget_not_positive .unlimited arguments settings.traceAll noBudget

/-- What the report of a run tells of a program that was compiled. -/
private theorem tellsRun_settled {compiled : Except CompileError Program}
    (accepted : compiled = .ok program) (natural : ∀ value ∈ arguments, 0 ≤ value)
    (messages : List Message) (verbosity : Nat) :
    let report := (settledRunReport arguments settings .standardOutput program).after messages
    report.files = .unchanged ∧ ∃ code, report.exit.code = some code ∧
      TellsRun compiled settings arguments code report.output
        (report.standardError verbosity) := by
  intro report
  cases ended : (program.run .unlimited settings arguments).result with
  | ok result =>
      have budget : 0 < settings.maxSteps := by
        refine Int.not_le.mp fun noBudget => ?_
        rw [run_of_no_budget noBudget] at ended
        cases ended
      obtain ⟨exit, told, code, settled⟩ := settledRunReport_of_ok ended
      have same : report = _ := congrArg (Report.after · messages) settled
      rw [same]
      exact ⟨rfl, _, code, .returned accepted budget ended (printedLines_outputLines _)
        (printedRegisters_registerText _)⟩
  | error error =>
      obtain ⟨told, settled⟩ := settledRunReport_of_error ended
      have same : report = _ := congrArg (Report.after · messages) settled
      rw [Report.after_printing, Report.after_after] at same
      rw [same]
      by_cases noBudget : settings.maxSteps ≤ 0
      · rw [run_of_no_budget noBudget] at ended ⊢
        cases ended
        exact ⟨rfl, _, rfl, .unusable accepted noBudget⟩
      · have budget := Int.not_le.mp noBudget
        obtain ⟨diagnostic, cause, runtime, -⟩ := run_unlimited_reported budget natural ended
        rw [cause]
        refine ⟨rfl, _, rfl, .failed accepted budget ended cause runtime ?_ (endsWith_after _ _ _)⟩
        show PrintedLines _ (outputLines _ ++ "")
        rw [String.append_empty]
        exact printedLines_outputLines _

/-- What the report of a run tells of the program of its source. -/
private theorem tellsRun_report (file source : String) (arguments : List Nat)
    (settings : Settings) (verbosity : Nat) :
    let command := Command.run file arguments (some settings) .standardOutput
    let report := command.report .standardOutput source
    report.files = .unchanged ∧ ∃ code, report.exit.code = some code ∧
      TellsRun (compile .unlimited source file) settings (arguments.map Int.ofNat) code
        report.output (report.standardError verbosity) := by
  intro command report
  let proceed := runReport file arguments (some settings) .standardOutput
  cases compiled : compile .unlimited source file with
  | error error =>
      obtain ⟨messages, -, reported⟩ := withProgram_of_error proceed compiled
      have same : report = _ := reported
      rw [same]
      exact ⟨rfl, _, rfl, .refused rfl (endsWith_after messages error.diagnostic verbosity)⟩
  | ok program =>
      have natural : ∀ value ∈ arguments.map Int.ofNat, 0 ≤ value := by
        intro value member
        obtain ⟨argument, -, rfl⟩ := List.mem_map.mp member
        exact Int.natCast_nonneg argument
      obtain ⟨messages, -, reported⟩ := withProgram_of_ok proceed compiled
      have same : report = (settledRunReport (arguments.map Int.ofNat) settings .standardOutput
          program).after (messages ++ _) :=
        reported.trans (Report.after_after _ _ messages)
      rw [same]
      exact tellsRun_settled rfl natural _ verbosity

end Reports

/-! ## Calls -/

/-- A call that asks for a run of a readable file returns the code of what the run of its program
comes to and tells it, and leaves the files as they are. Whatever the arguments and the settings,
a run can be asked for. -/
theorem invoke_run_tells {directory : Directory} {file text : String} {path : FilePath}
    (onDisk : file ≠ "-") (reached : directory.expand (.ofText file) = .ok path)
    (stored : directory.read path = .ok text.toUTF8.toList) (arguments : List Nat)
    (settings : Settings) (input : String) :
    let source := String.ofList (unifyLineEnds text.toList)
    let command := Command.run file arguments (some settings) .standardOutput
    ('\r' ∉ text.toList → source = text) ∧
      (file.toList.head? ≠ some '-' →
        Request.ofArguments (CommandName.run.text :: runWords file arguments settings) =
          .perform 0 command) ∧
      ∀ words verbosity, Request.ofArguments words = .perform verbosity command →
        ∃ exit code output standardError,
          invoke directory words input = (.report exit output standardError, directory) ∧
            exit.code = some code ∧
            TellsRun (compile .unlimited source file) settings (arguments.map Int.ofNat) code
              output standardError := by
  intro source command
  refine ⟨fun plain => ?_, fun plain => ofArguments_runWords plain arguments settings, ?_⟩
  · rw [← String.toList_inj, String.toList_ofList, unifyLineEnds_eq_self plain]
  · intro words verbosity asked
    have performed : command.perform directory input = command.report .standardOutput source :=
      perform_of_read rfl (readSource_of_stored input onDisk reached stored)
    obtain ⟨unchanged, code, returned, tells⟩ :=
      tellsRun_report file source arguments settings verbosity
    refine ⟨_, code, _, _, ?_, returned, tells⟩
    simp only [invoke, asked, performed]
    rw [unchanged]
    rfl

/-- A loop is run from a file with carriage returns in one's home directory, each of its steps
being traced. -/
theorem invoke_run_tells_counting :
    let text := "loop: r0+\r\nr0+ -> loop\r\n"
    let directory : Directory :=
      { files := [(["home", "p.rm"], text.toUTF8.toList)], homes := [("", "/home/")] }
    let path : FilePath := ⟨1, ["home", "p.rm"]⟩
    "~/p.rm" ≠ "-" ∧ directory.expand (.ofText "~/p.rm") = .ok path ∧
      directory.read path = .ok text.toUTF8.toList ∧
      ∃ exit code output standardError,
        invoke directory ["run", "~/p.rm", "3", "--max-steps", "2", "--trace-all"] "" =
          (.report exit output standardError, directory) ∧
        exit.code = some code ∧
        TellsRun (compile .unlimited (String.ofList (unifyLineEnds text.toList)) "~/p.rm")
          ⟨2, true⟩ [3] code output standardError := by
  intro text directory path
  have onDisk : "~/p.rm" ≠ "-" := by decide
  have reached : directory.expand (.ofText "~/p.rm") = .ok path := by decide
  have stored : directory.read path = .ok text.toUTF8.toList := rfl
  have words : CommandName.run.text :: runWords "~/p.rm" [3] ⟨2, true⟩ =
      ["run", "~/p.rm", "3", "--max-steps", "2", "--trace-all"] := by decide
  obtain ⟨-, asked, tells⟩ := invoke_run_tells onDisk reached stored [3] ⟨2, true⟩ ""
  rw [words] at asked
  exact ⟨onDisk, reached, stored, tells _ 0 (asked (by decide))⟩

end CounterMachine.CommandLine
