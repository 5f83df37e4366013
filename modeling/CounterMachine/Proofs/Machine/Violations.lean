import CounterMachine.Proofs.Machine.Tracing
import CounterMachine.Proofs.Machine.Visits

/-!
Contract: how a run fails, under a limit on digits and without one.

Owns: the two kinds of snapshot at which a number would have to be written that is too long, that
a run which meets one of them ends there with a violation, and that every other failure of a run
is reported as one of running, which without a limit is every failure.

Does not own: the programs that never come to such a snapshot.
-/

set_option autoImplicit false

namespace CounterMachine

open Text

/-- The error is reported as one of running, with a code that a machine gives. -/
def RunError.Reported (error : RunError) : Prop :=
  ∃ diagnostic, error.failure = .diagnostic diagnostic ∧ diagnostic.family = .runtime ∧
    diagnostic.code ∈ [ErrorCode.outOfBounds, .evalFailed, .emptyProgram]

theorem RunError.reported_or_violation (error : RunError) :
    error.Reported ∨ ∃ cause, error = .violation cause := by
  cases error with
  | violation cause => exact .inr ⟨cause, rfl⟩
  | emptyProgram => exact .inl ⟨_, rfl, rfl, by simp⟩
  | outOfBounds index line text target size => exact .inl ⟨_, rfl, rfl, by simp⟩
  | evalFailed index line text failure => exact .inl ⟨_, rfl, rfl, by simp⟩

/-- The instruction at the place leads outside the program, to a place whose number is too long
to be written. -/
def Snapshot.Overshoots (limit : DigitLimit) (program : Program) (snapshot : Snapshot) : Prop :=
  ∃ body target registers computed, program[snapshot.place]? = some body ∧
    body.operation.effect limit snapshot.place snapshot.registers =
      .ok (.jump target registers computed) ∧
    ¬ (0 ≤ target ∧ target < program.length) ∧ limit.fits target = false

/-- Something that is too long would have to be written: the value of a register that a traced
instruction counts, or the place that a jump leads to. -/
def Snapshot.Unwritable (limit : DigitLimit) (program : Program) (traceAll : Bool)
    (snapshot : Snapshot) : Prop :=
  snapshot.Hindered limit program
      (fun place => traceAll || program[place]?.any (·.trace)) ∨
    snapshot.Overshoots limit program

section Steps

variable {program : Program} {bound : Nat} {settings : Settings} {snapshot : Snapshot}

/-- The machine that runs a program under the limit. -/
def Program.limited (program : Program) (settings : Settings) (bound : Nat) : Machine :=
  ⟨program.tokens, settings, .atMost bound⟩

private theorem hindered_iff_of_found {body : Instruction Int}
    (fit : program.InitialsFit (.atMost bound))
    (found : program[snapshot.place]? = some body) :
    (snapshot.Hindered (.atMost bound) program fun place =>
        settings.traceAll || program[place]?.any (·.trace)) ↔
      (settings.traceAll || body.trace) = true ∧
        ∃ number ∈ body.tracedNumbers snapshot.registers,
          (DigitLimit.atMost bound).fits number = false := by
  rw [Snapshot.hindered_iff fit found]
  simp only [found, Option.any_some]

private theorem step_of_unwritable (settings : Settings) (fit : program.InitialsFit (.atMost bound))
    (unwritable : snapshot.Unwritable (.atMost bound) program settings.traceAll) :
    ∃ events, (program.limited settings bound).step snapshot =
      .ended events (.error (.violation (.numeralTooLong bound))) := by
  have ends {body : Instruction Int} (found : program[snapshot.place]? = some body)
      (refused : (program.limited settings bound).traceEvents body snapshot.registers =
        .error (.numeralTooLong bound)) :
      ∃ events, (program.limited settings bound).step snapshot =
        .ended events (.error (.violation (.numeralTooLong bound))) :=
    ⟨_, Machine.step_eq_iff.mpr
      (.untraceable (Program.tokens_getElem?_eq_some_iff.mpr found) refused)⟩
  rcases unwritable with ⟨body, register, found, traced⟩ |
    ⟨body, target, registers, computed, found, effect, outside, long⟩
  · have hindered := (hindered_iff_of_found fit found).mp ⟨body, register, found, traced⟩
    rcases (program.limited settings bound).traceEvents_cases rfl body snapshot.registers with
      ⟨_, -, free⟩ | ⟨refused, -⟩
    · exact absurd hindered free
    · exact ends found refused
  · rcases (program.limited settings bound).traceEvents_cases rfl body snapshot.registers with
      ⟨traced, tracing, -⟩ | ⟨refused, -⟩
    · have unwritten : checkNumerals (.atMost bound) [target] = .error (.numeralTooLong bound) :=
        checkNumerals_atMost_eq_error_iff.mpr ⟨⟨target, List.mem_cons_self, long⟩, rfl⟩
      have cell := Program.tokens_getElem?_eq_some_iff.mpr found
      rw [← program.length_tokens] at outside
      exact ⟨_, Machine.step_eq_iff.mpr
        (.leaveUnwritten cell tracing effect outside unwritten)⟩
    · exact ends found refused

private theorem unwritable_of_step (fit : program.InitialsFit (.atMost bound))
    {events : List Event} {cause : Violation}
    (ended : (program.limited settings bound).step snapshot =
      .ended events (.error (.violation cause))) :
    cause = .numeralTooLong bound ∧
      snapshot.Unwritable (.atMost bound) program settings.traceAll := by
  cases Machine.step_eq_iff.mp ended with
  | leaveUnwritten cell tracing effect outside unwritten =>
      obtain ⟨⟨number, member, long⟩, same⟩ := checkNumerals_atMost_eq_error_iff.mp unwritten
      rw [List.mem_singleton.mp member] at long
      have found := Program.tokens_getElem?_eq_some_iff.mp cell
      rw [Program.limited, Program.length_tokens] at outside
      exact ⟨same, .inr ⟨_, _, _, _, found, effect, outside, long⟩⟩
  | @untraceable body _ cell tracing =>
      have found := Program.tokens_getElem?_eq_some_iff.mp cell
      rcases (program.limited settings bound).traceEvents_cases rfl body snapshot.registers with
        ⟨_, traced, -⟩ | ⟨refused, overlong⟩
      · cases traced.symm.trans tracing
      · cases refused.symm.trans tracing
        exact ⟨rfl, .inl ((hindered_iff_of_found fit found).mpr overlong)⟩
  | noInstruction cell refused =>
      rw [Program.limited, Program.tokens_getElem?, Option.map_eq_some_iff] at cell
      obtain ⟨body, -, rfl⟩ := cell
      cases refused

end Steps

/-! ## Runs -/

/-- A run on natural arguments fails with a violation exactly where it comes, within its budget,
to something that cannot be written. All its other failures are reported. -/
theorem run_failure_iff {program : Program} {bound : Nat}
    (fit : program.InitialsFit (.atMost bound)) {arguments : List Int}
    (natural : ∀ value ∈ arguments, 0 ≤ value) {budget : Nat} (positive : 1 ≤ budget)
    (traceAll : Bool) :
    let result := (program.run (.atMost bound) ⟨budget, traceAll⟩ arguments).result
    ∃ registers, RegisterFile.ofArguments (.atMost bound) arguments = .ok registers ∧
      let meets := (program.limited ⟨budget, traceAll⟩ bound).Meets
        (Snapshot.Unwritable (.atMost bound) program traceAll) budget ⟨0, 0, registers, []⟩
      (meets → result = .error (.violation (.numeralTooLong bound))) ∧
        (¬ meets → ∀ error, result = .error error → error.Reported) := by
  intro result
  obtain ⟨registers, accepted, -⟩ := RegisterFile.ofArguments_eq_ok (.atMost bound) natural
  have runEq : result = ((program.limited ⟨budget, traceAll⟩ bound).advance budget
      ⟨0, 0, registers, []⟩).result := by
    simp only [result]
    rw [program.run_eq (.atMost bound) traceAll arguments positive budget, accepted]
    rfl
  refine ⟨registers, accepted, ?_, ?_⟩
  · rintro ⟨count, last, below, onward, unwritable⟩
    obtain ⟨events, ended⟩ := step_of_unwritable ⟨budget, traceAll⟩ fit unwritable
    rw [runEq, onward.advance_of_ended ended below]
  · intro free error failed
    rw [runEq] at failed
    rcases Machine.onward_or_ended (program.limited ⟨budget, traceAll⟩ bound) budget
        ⟨0, 0, registers, []⟩ with
      ⟨last, onward⟩ | ⟨count, last, events, ending, below, onward, ended⟩
    · rw [onward.advance_eq] at failed
      cases failed
    · rw [onward.advance_of_ended ended below] at failed
      rcases error.reported_or_violation with reported | ⟨cause, rfl⟩
      · exact reported
      · simp only at failed
        rw [failed] at ended
        exact absurd ⟨count, last, below, onward, (unwritable_of_step fit ended).2⟩ free

/-! ## Without a limit -/

private theorem traceEvents_unlimited_ne_error {machine : Machine}
    (unlimited : machine.limit = .unlimited) (body : Instruction Int) (registers : RegisterFile)
    (cause : Violation) : machine.traceEvents body registers ≠ .error cause := by
  rw [Machine.traceEvents, unlimited]
  split
  · exact nofun
  · exact nofun

/-- A run without a limit on natural arguments fails in no way that is not reported. -/
theorem run_unlimited_reported {program : Program} {settings : Settings}
    (positive : 0 < settings.maxSteps) {arguments : List Int}
    (natural : ∀ value ∈ arguments, 0 ≤ value) {error : RunError}
    (failed : (program.run .unlimited settings arguments).result = .error error) :
    error.Reported := by
  obtain ⟨registers, accepted, -⟩ := RegisterFile.ofArguments_eq_ok .unlimited natural
  rw [Program.run, Machine.run_eq_advance positive accepted] at failed
  rcases Machine.advance_cases ⟨program.tokens, settings, .unlimited⟩ settings.maxSteps.toNat
      ⟨0, 0, registers, []⟩ with
    ⟨last, -, exceeded⟩ | ⟨last, -, events, result, ended, same⟩
  · cases exceeded.symm.trans failed
  · cases same.symm.trans failed
    rcases error.reported_or_violation with reported | ⟨cause, rfl⟩
    · exact reported
    · cases Machine.step_eq_iff.mp ended with
      | leaveUnwritten found tracing effect outside unwritten => cases unwritten
      | untraceable found tracing =>
          exact absurd tracing (traceEvents_unlimited_ne_error rfl _ _ cause)
      | noInstruction found refused =>
          rw [Program.tokens_getElem?, Option.map_eq_some_iff] at found
          obtain ⟨body, -, rfl⟩ := found
          cases refused

end CounterMachine
