import CounterMachine.Proofs.Expression.CaseFolding
import CounterMachine.Proofs.Machine.Agreement
import CounterMachine.Proofs.Machine.Simulation
import CounterMachine.Proofs.Source.FoldedTokens

/-!
Contract: runs do not look at the case of the texts that instructions quote.

Owns: events, errors, results and runs with small letters in the texts that they quote; and that
programs which differ in the case of these texts have runs which differ in no more than that.

Does not own: the texts themselves, which are seen in the lines of traced instructions, in reasons
and in errors.
-/

set_option autoImplicit false

namespace CounterMachine

open Text

/-! ## What is seen of a run, with small letters -/

def EvalFailure.foldCase (failure : EvalFailure) : EvalFailure :=
  ⟨failure.description.toLower, failure.code.toLower, failure.cause⟩

def RunError.foldCase : RunError → RunError
  | .violation cause => .violation cause
  | .emptyProgram => .emptyProgram
  | .outOfBounds index line text target size => .outOfBounds index line text.toLower target size
  | .evalFailed index line text failure => .evalFailed index line text.toLower failure.foldCase

def Event.foldCase : Event → Event
  | .traced line => .traced line.toLower
  | .evaluated code value => .evaluated code.toLower value

def Effect.foldCase : Effect → Effect
  | .jump target registers events => .jump target registers (events.map Event.foldCase)
  | .halt reason => .halt reason.toLower

def Outcome.foldCase : Outcome → Outcome
  | .halted reason => .halted reason.toLower
  | .budgetExceeded => .budgetExceeded

def RunResult.foldCase (result : RunResult) : RunResult :=
  { result with outcome := result.outcome.foldCase }

/-- The result or the error, with small letters in the texts that it quotes. -/
def foldedResult (result : Except RunError RunResult) : Except RunError RunResult :=
  converted RunResult.foldCase RunError.foldCase result

def Run.foldCase (run : Run) : Run :=
  ⟨run.events.map Event.foldCase, foldedResult run.result⟩

/-! ## Instructions -/

/-- By cases on the operation. Only an expression is read, which means the same in either case. -/
theorem Operation.effect_foldCase (limit : DigitLimit) (index : Nat) (registers : RegisterFile)
    (operation : Operation Int) :
    converted Effect.foldCase EvalFailure.foldCase
        (operation.foldCase.effect limit index registers) =
      converted Effect.foldCase EvalFailure.foldCase
        (operation.effect limit index registers) := by
  cases operation with
  | init register value => rfl
  | inc register next => rfl
  | dec register onPositive onZero => rfl
  | halt reason =>
      refine converted_eq_iff.mpr (.inl ⟨_, _, rfl, rfl, ?_⟩)
      rw [Effect.foldCase, Effect.foldCase, toLower_toLower]
  | eval description register code =>
      rw [foldCase, effect, effect, Expression.evaluate_toLower]
      cases Expression.evaluate limit registers.value code with
      | ok value =>
          refine converted_eq_iff.mpr (.inl ⟨_, _, rfl, rfl, ?_⟩)
          simp only [Effect.foldCase, List.map_cons, Event.foldCase, toLower_toLower]
      | error cause =>
          refine converted_eq_iff.mpr (.inr ⟨_, _, rfl, rfl, ?_⟩)
          simp only [EvalFailure.foldCase, toLower_toLower]

theorem Instruction.tracedNumbers_foldCase (body : Instruction Int) (registers : RegisterFile) :
    body.foldCase.tracedNumbers registers = body.tracedNumbers registers := by
  obtain ⟨operation, text, line, trace, label⟩ := body
  cases operation with
  | init register value => rfl
  | inc register next => rfl
  | dec register onPositive onZero => rfl
  | halt reason => rfl
  | eval description register code => rfl

theorem Instruction.traceText_foldCase (body : Instruction Int) (registers : RegisterFile) :
    (body.foldCase.traceText registers).toLower = (body.traceText registers).toLower := by
  obtain ⟨operation, text, line, trace, label⟩ := body
  cases operation with
  | init register value => rfl
  | inc register next =>
      simp only [foldCase, Operation.foldCase, traceText, toLower_append, toLower_toLower]
  | dec register onPositive onZero =>
      simp only [foldCase, Operation.foldCase, traceText, toLower_append, toLower_toLower]
  | halt reason =>
      simp only [foldCase, Operation.foldCase, traceText, toLower_append, toLower_toLower]
  | eval description register code =>
      simp only [foldCase, Operation.foldCase, traceText, toLower_append, toLower_toLower]

/-- An instruction is traced in either case or in none, and its line differs in case only. -/
theorem Machine.traceEvents_foldCase {machine other : Machine}
    (settings : machine.settings = other.settings) (limit : machine.limit = other.limit)
    (body : Instruction Int) (registers : RegisterFile) :
    converted (List.map Event.foldCase) id (other.traceEvents body.foldCase registers) =
      converted (List.map Event.foldCase) id (machine.traceEvents body registers) := by
  rw [traceEvents, traceEvents, settings, limit, Instruction.foldCase]
  split
  · rw [← Instruction.foldCase, Instruction.traceLine, Instruction.traceLine,
      body.tracedNumbers_foldCase]
    cases checkNumerals other.limit (body.tracedNumbers registers) with
    | error cause => rfl
    | ok _ =>
        refine converted_eq_iff.mpr (.inl ⟨_, _, rfl, rfl, ?_⟩)
        simp only [List.map_cons, Event.foldCase, body.traceText_foldCase]
  · rfl

/-! ## Steps -/

/-- The snapshots differ at most in the case of what was seen before. -/
structure Snapshot.AlikeInCase (snapshot other : Snapshot) : Prop where
  place : other.place = snapshot.place
  steps : other.steps = snapshot.steps
  registers : other.registers = snapshot.registers
  seen : other.events.map Event.foldCase = snapshot.events.map Event.foldCase

/-- The runs differ at most in the case of what is seen of them. -/
def Run.AlikeInCase (run other : Run) : Prop :=
  other.foldCase = run.foldCase

theorem Run.alikeInCase_of_events {events otherEvents : List Event}
    {result otherResult : Except RunError RunResult}
    (seen : otherEvents.map Event.foldCase = events.map Event.foldCase)
    (same : foldedResult otherResult = foldedResult result) :
    Run.AlikeInCase ⟨events.reverse, result⟩ ⟨otherEvents.reverse, otherResult⟩ := by
  simp only [AlikeInCase, foldCase, List.map_reverse, seen, same]

section Steps

variable {machine other : Machine}

/-- Control arrives at the same place, or leaves from an instruction with the same text. -/
theorem Machine.arrive_foldCase (limit : machine.limit = other.limit)
    (size : machine.cells.length = other.cells.length) {snapshot otherSnapshot : Snapshot}
    (place : otherSnapshot.place = snapshot.place) (steps : otherSnapshot.steps = snapshot.steps)
    (body : Instruction Int) (target : Int) (registers : RegisterFile)
    {events otherEvents : List Event}
    (seen : otherEvents.map Event.foldCase = events.map Event.foldCase) :
    Move.Alike Snapshot.AlikeInCase Run.AlikeInCase
      (machine.arrive snapshot body target registers events)
      (other.arrive otherSnapshot body.foldCase target registers otherEvents) := by
  simp only [arrive, limit, size, place, steps]
  split
  · exact .onward ⟨rfl, rfl, rfl, seen⟩
  · refine .ended (Run.alikeInCase_of_events seen ?_)
    cases checkNumerals other.limit [target] with
    | error cause => rfl
    | ok _ =>
        refine converted_eq_iff.mpr (.inr ⟨_, _, rfl, rfl, ?_⟩)
        simp only [RunError.foldCase, Instruction.foldCase, toLower_toLower]

theorem Machine.execute_foldCase (settings : machine.settings = other.settings)
    (limit : machine.limit = other.limit) (size : machine.cells.length = other.cells.length)
    {snapshot otherSnapshot : Snapshot} (alike : snapshot.AlikeInCase otherSnapshot)
    (body : Instruction Int) :
    Move.Alike Snapshot.AlikeInCase Run.AlikeInCase
      (machine.execute snapshot body) (other.execute otherSnapshot body.foldCase) := by
  obtain ⟨place, steps, registers, events⟩ := snapshot
  obtain ⟨otherPlace, otherSteps, otherRegisters, otherEvents⟩ := otherSnapshot
  obtain ⟨rfl, rfl, rfl, seen⟩ := alike
  have traces := traceEvents_foldCase settings limit body otherRegisters
  have effects := body.operation.effect_foldCase other.limit otherPlace otherRegisters
  simp only [execute, limit]
  rcases converted_eq_iff.mp traces with
    ⟨otherTraced, traced, otherTracing, tracing, tracedAlike⟩ |
      ⟨cause, _, otherTracing, tracing, rfl⟩
  · have seenHere : (otherTraced ++ otherEvents).map Event.foldCase =
        (traced ++ events).map Event.foldCase := by
      rw [List.map_append, List.map_append, tracedAlike, seen]
    have operation : body.foldCase.operation = body.operation.foldCase := rfl
    simp only [tracing, otherTracing, operation]
    rcases converted_eq_iff.mp effects with
      ⟨otherControl, control, otherDone, done, controlAlike⟩ |
        ⟨otherFailure, failure, otherFailed, failed, failureAlike⟩
    · simp only [done, otherDone]
      cases control with
      | halt reason =>
          cases otherControl with
          | jump otherTarget otherChanged otherComputed => cases controlAlike
          | halt otherReason =>
              refine .ended (Run.alikeInCase_of_events seenHere ?_)
              refine converted_eq_iff.mpr (.inl ⟨_, _, rfl, rfl, ?_⟩)
              simp only [RunResult.foldCase, Outcome.foldCase, Effect.halt.inj controlAlike]
      | jump target changed computed =>
          cases otherControl with
          | halt otherReason => cases controlAlike
          | jump otherTarget otherChanged otherComputed =>
              obtain ⟨rfl, rfl, computedAlike⟩ := Effect.jump.inj controlAlike
              apply arrive_foldCase limit size rfl rfl
              rw [List.map_append, computedAlike, seenHere, ← List.map_append]
    · simp only [failed, otherFailed]
      refine .ended (Run.alikeInCase_of_events seenHere ?_)
      refine converted_eq_iff.mpr (.inr ⟨_, _, rfl, rfl, ?_⟩)
      simp only [RunError.foldCase, Instruction.foldCase, toLower_toLower, failureAlike]
  · simp only [tracing, otherTracing]
    exact .ended (Run.alikeInCase_of_events seen rfl)

end Steps

/-! ## Runs -/

/-- A program keeps in step with the program with small letters in the texts that it quotes. -/
theorem Program.inStep_foldCase (limit : DigitLimit) (settings : Settings) (program : Program) :
    Machine.InStep Snapshot.AlikeInCase Run.AlikeInCase ⟨program.tokens, settings, limit⟩
      ⟨Program.tokens (program.map Instruction.foldCase), settings, limit⟩ where
  step := by
    intro snapshot otherSnapshot alike
    let machine : Machine := ⟨program.tokens, settings, limit⟩
    let other : Machine :=
      ⟨Program.tokens (program.map Instruction.foldCase), settings, limit⟩
    have size : machine.cells.length = other.cells.length := by
      rw [length_tokens, length_tokens, List.length_map]
    rw [machine.step_of_cells rfl, other.step_of_cells rfl, alike.place, List.getElem?_map]
    cases program[snapshot.place]? with
    | none => exact .ended (Run.alikeInCase_of_events alike.seen rfl)
    | some body => exact @Machine.execute_foldCase machine other rfl rfl size _ _ alike body
  exhausted := by
    rintro ⟨place, steps, registers, events⟩ ⟨_, _, _, otherEvents⟩ ⟨rfl, rfl, rfl, seen⟩
    exact Run.alikeInCase_of_events seen rfl

theorem Program.run_foldCase (limit : DigitLimit) (settings : Settings) (program : Program)
    (arguments : List Int) :
    (Program.run limit settings (program.map Instruction.foldCase) arguments).foldCase =
      (program.run limit settings arguments).foldCase :=
  (program.inStep_foldCase limit settings).run_same rfl rfl (fun _ => rfl)
    (fun _ => ⟨rfl, rfl, rfl, rfl⟩) arguments

/-- Programs that differ in the case of the texts that they quote have runs that differ in no more
than that. -/
theorem Program.run_alikeInCase {program other : Program}
    (same : program.map Instruction.foldCase = other.map Instruction.foldCase)
    (limit : DigitLimit) (settings : Settings) (arguments : List Int) :
    (program.run limit settings arguments).foldCase =
      (other.run limit settings arguments).foldCase := by
  rw [← program.run_foldCase, same, other.run_foldCase]

/-! ## Ends of runs -/

namespace RunError

/-- The code that the error is reported with, and the index of the instruction at fault. -/
def site : RunError → Option (ErrorCode × Option Int)
  | .violation _ => none
  | .emptyProgram => some (.emptyProgram, none)
  | .outOfBounds index _ _ _ _ => some (.outOfBounds, some index)
  | .evalFailed index _ _ _ => some (.evalFailed, some index)

theorem reports_of_site {error : RunError} {code : ErrorCode} {index : Option Int}
    (found : error.site = some (code, index)) : error.Reports code index := by
  cases error with
  | violation cause => cases found
  | emptyProgram =>
      cases found
      exact ⟨_, _, _, rfl, rfl, rfl⟩
  | outOfBounds place line text target size =>
      cases found
      exact ⟨_, _, _, rfl, rfl, rfl⟩
  | evalFailed place line text failure =>
      cases found
      exact ⟨_, _, _, rfl, rfl, rfl⟩

theorem site_foldCase (error : RunError) : error.foldCase.site = error.site := by
  cases error with
  | violation cause => rfl
  | emptyProgram => rfl
  | outOfBounds place line text target size => rfl
  | evalFailed place line text failure => rfl

/-- An error without a code quotes no text. -/
theorem foldCase_eq_violation_iff {error : RunError} {cause : Violation} :
    error.foldCase = .violation cause ↔ error = .violation cause := by
  cases error with
  | violation known => exact Iff.rfl
  | emptyProgram => exact Iff.rfl
  | outOfBounds place line text target size => simp only [foldCase, reduceCtorEq]
  | evalFailed place line text failure => simp only [foldCase, reduceCtorEq]

theorem exists_violation_of_site {error : RunError} (absent : error.site = none) :
    ∃ cause, error = .violation cause := by
  cases error with
  | violation cause => exact ⟨cause, rfl⟩
  | emptyProgram => cases absent
  | outOfBounds place line text target size => cases absent
  | evalFailed place line text failure => cases absent

end RunError

/-- Results that differ in the case of the texts that they quote have the same registers, outcome,
steps and place, or fail with one code at one instruction, or for one reason that has no code. -/
theorem SameEnd.of_foldedResult {result other : Except RunError RunResult}
    (same : foldedResult result = foldedResult other) :
    SameEnd result other ∨
      ∃ cause, result = .error (.violation cause) ∧ other = .error (.violation cause) := by
  rcases converted_eq_iff.mp same with
    ⟨⟨registers, outcome, steps, place⟩, ⟨_, otherOutcome, _, _⟩, rfl, rfl, alike⟩ |
      ⟨error, otherError, rfl, rfl, alike⟩
  · obtain ⟨rfl, outcomes, rfl, rfl⟩ := RunResult.mk.inj alike
    left
    cases outcome with
    | halted reason =>
        cases otherOutcome with
        | halted otherReason => exact .halted
        | budgetExceeded => cases outcomes
    | budgetExceeded =>
        cases otherOutcome with
        | halted otherReason => cases outcomes
        | budgetExceeded => exact .budgetExceeded
  · have otherSite : otherError.site = error.site := by
      rw [← otherError.site_foldCase, ← alike, error.site_foldCase]
    cases found : error.site with
    | some site =>
        exact .inl (.failed (RunError.reports_of_site found)
          (RunError.reports_of_site (otherSite.trans found)))
    | none =>
        obtain ⟨cause, rfl⟩ := RunError.exists_violation_of_site found
        rw [RunError.foldCase_eq_violation_iff.mp alike.symm]
        exact .inr ⟨cause, rfl, rfl⟩

end CounterMachine
