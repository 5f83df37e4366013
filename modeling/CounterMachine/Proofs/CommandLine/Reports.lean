import CounterMachine.CommandLine.Invocation
import CounterMachine.Proofs.Diagnostic
import CounterMachine.Proofs.Sequencing
import CounterMachine.Proofs.Text.Utf8

/-!
Contract: reports that are put together from those of the stages.

Owns: what messages or a text in front of a report change about it, how a source is read, and what
a command makes of a source, with its program or with the error that refuses it.

Does not own: what the commands do with a program.
-/

set_option autoImplicit false

namespace CounterMachine.CommandLine

open Text

/-! ## Reports with something in front -/

section Fronts

variable (report : Report) (messages : List Message) (text : String)

theorem Report.after_after (earlier : List Message) :
    (report.after messages).after earlier = report.after (earlier ++ messages) := by
  rw [after, after, after, List.append_assoc]

theorem Report.after_printing :
    (report.printing text).after messages = (report.after messages).printing text :=
  rfl

/-- Messages in front come first, as far as they are shown. -/
theorem Report.standardError_after (verbosity : Nat) :
    (report.after messages).standardError verbosity =
      String.join ((messages.filter (·.isShown verbosity)).map Message.render) ++
        report.standardError verbosity := by
  rw [standardError, after, List.filter_append, List.map_append, String.join_append]
  rfl

/-- Messages that are not shown change nothing. -/
theorem Report.standardError_after_of_hidden {verbosity : Nat}
    (hidden : ∀ message ∈ messages, message.isShown verbosity = false) :
    (report.after messages).standardError verbosity = report.standardError verbosity := by
  have none : messages.filter (·.isShown verbosity) = [] :=
    List.filter_eq_nil_iff.mpr fun message member =>
      Bool.eq_false_iff.mp (hidden message member)
  rw [standardError_after, none]
  exact String.empty_append

end Fronts

/-! ## Errors -/

/-- The text ends with the report of the error, in the form of a diagnostic. -/
def EndsWith (text : String) (diagnostic : Diagnostic) : Prop :=
  ∃ before report, diagnostic.ShownAs report ∧ text = before ++ (report ++ "\n")

theorem endsWith_after (messages : List Message) (diagnostic : Diagnostic) (verbosity : Nat) :
    EndsWith
      (((Report.ofFailure (.diagnostic diagnostic)).after messages).standardError verbosity)
      diagnostic := by
  rw [Report.standardError_after]
  exact ⟨_, _, Diagnostic.shownAs_iff.mpr rfl, congrArg _ rfl⟩

/-! ## Sources -/

/-- A file is read as the text that its bytes encode, with line feeds at all line ends. -/
theorem readSource_of_stored {directory : Directory} {file text : String} {path : FilePath}
    (input : String) (onDisk : file ≠ "-")
    (reached : directory.expand (.ofText file) = .ok path)
    (stored : directory.read path = .ok text.toUTF8.toList) :
    readSource directory input file = .ok (String.ofList (unifyLineEnds text.toList)) := by
  rw [readSource, if_neg onDisk]
  simp only [reached, stored, readText_toUTF8]
  rfl

theorem perform_of_read {directory : Directory} {input source file : String} {command : Command}
    (reads : command.source? = some file)
    (read : readSource directory input file = .ok source) :
    command.perform directory input =
      command.report (directory.outputOf command.destination) source := by
  simp only [Command.perform, reads, read]

/-! ## Programs -/

section Programs

variable {source file : String} (proceed : Program → Report)

/-- A source that does not compile is reported with its error. -/
theorem withProgram_of_error {error : CompileError}
    (refused : compile .unlimited source file = .error error) :
    ∃ messages : List Message, (∀ message ∈ messages, message.isShown 0 = false) ∧
      withProgram file source proceed =
        (Report.ofFailure (.diagnostic error.diagnostic)).after messages := by
  rw [compile] at refused
  unfold withProgram
  cases parsed : parse .unlimited source file with
  | error unread =>
      rw [parsed] at refused
      cases refused
      exact ⟨[], by simp, rfl⟩
  | ok tokens =>
      rw [parsed] at refused
      have unlinked : (link .unlimited tokens).mapError CompileError.link = .error error := refused
      cases linked : link .unlimited tokens with
      | error cause =>
          rw [linked] at unlinked
          cases unlinked
          simp only [linked]
          refine ⟨_, ?_, rfl⟩
          simp [Message.isShown, Level.verbosity]
      | ok program =>
          rw [linked] at unlinked
          cases unlinked

/-- With the program of a source a command goes on, and says so only when it is asked to. -/
theorem withProgram_of_ok {program : Program}
    (compiled : compile .unlimited source file = .ok program) :
    ∃ messages : List Message, (∀ message ∈ messages, message.isShown 0 = false) ∧
      withProgram file source proceed = (proceed program).after messages := by
  obtain ⟨tokens, parsed, linked⟩ := bind_eq_ok.mp compiled
  rw [mapError_eq_ok] at parsed linked
  unfold withProgram
  simp only [parsed, linked]
  refine ⟨_, ?_, rfl⟩
  simp [Message.isShown, Level.verbosity]

/-- An encoding goes on with the program of its source. -/
theorem perform_encode_of_ok {directory : Directory} {input : String} {program : Program}
    (read : readSource directory input file = .ok source)
    (compiled : compile .unlimited source file = .ok program) (explain : Bool)
    (destination : Destination) :
    ∃ messages : List Message, (∀ message ∈ messages, message.isShown 0 = false) ∧
      (Command.encode file explain destination).perform directory input =
        (encodeReport explain (directory.outputOf destination) program).after messages := by
  obtain ⟨messages, hidden, reported⟩ :=
    withProgram_of_ok (encodeReport explain (directory.outputOf destination)) compiled
  exact ⟨messages, hidden, (perform_of_read rfl read).trans reported⟩

end Programs

end CounterMachine.CommandLine
