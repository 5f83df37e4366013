import CounterMachine.Machine.Run

/-!
Contract: what a step of a machine can do, and how a run consists of steps.

Owns: the moves of a machine as a relation that lists every case with its conditions; counted
sequences of steps that go on; and the two ways in which a run can come out of a number of
steps, which is that all of them go on or that an earlier one ends the run.

Does not own: what instructions mean, and the settings under which a run is started.
-/

set_option autoImplicit false

namespace CounterMachine.Machine

open Text

/-! ## Moves -/

/-- The moves that a machine can make from a snapshot. -/
inductive Makes (machine : Machine) (snapshot : Snapshot) : Move → Prop where
  | jump {body : Instruction Int} {traced computed : List Event} {target : Int}
      {registers : RegisterFile}
      (found : machine.cells[snapshot.place]? = some (.instruction body))
      (tracing : machine.traceEvents body snapshot.registers = .ok traced)
      (effect : body.operation.effect machine.limit snapshot.place snapshot.registers =
        .ok (.jump target registers computed))
      (inside : 0 ≤ target ∧ target < machine.cells.length) :
      Makes machine snapshot (.onward
        ⟨target.toNat, snapshot.steps + 1, registers, computed ++ (traced ++ snapshot.events)⟩)
  | leave {body : Instruction Int} {traced computed : List Event} {target : Int}
      {registers : RegisterFile}
      (found : machine.cells[snapshot.place]? = some (.instruction body))
      (tracing : machine.traceEvents body snapshot.registers = .ok traced)
      (effect : body.operation.effect machine.limit snapshot.place snapshot.registers =
        .ok (.jump target registers computed))
      (outside : ¬ (0 ≤ target ∧ target < machine.cells.length))
      (written : checkNumerals machine.limit [target] = .ok ()) :
      Makes machine snapshot (.ended (computed ++ (traced ++ snapshot.events)) (.error
        (.outOfBounds snapshot.place body.line body.text target machine.cells.length)))
  | leaveUnwritten {body : Instruction Int} {traced computed : List Event} {target : Int}
      {registers : RegisterFile} {cause : Violation}
      (found : machine.cells[snapshot.place]? = some (.instruction body))
      (tracing : machine.traceEvents body snapshot.registers = .ok traced)
      (effect : body.operation.effect machine.limit snapshot.place snapshot.registers =
        .ok (.jump target registers computed))
      (outside : ¬ (0 ≤ target ∧ target < machine.cells.length))
      (unwritten : checkNumerals machine.limit [target] = .error cause) :
      Makes machine snapshot
        (.ended (computed ++ (traced ++ snapshot.events)) (.error (.violation cause)))
  | halt {body : Instruction Int} {traced : List Event} {reason : String}
      (found : machine.cells[snapshot.place]? = some (.instruction body))
      (tracing : machine.traceEvents body snapshot.registers = .ok traced)
      (effect : body.operation.effect machine.limit snapshot.place snapshot.registers =
        .ok (.halt reason)) :
      Makes machine snapshot (.ended (traced ++ snapshot.events)
        (.ok ⟨snapshot.registers, .halted reason, snapshot.steps + 1, snapshot.place⟩))
  | fail {body : Instruction Int} {traced : List Event} {failure : EvalFailure}
      (found : machine.cells[snapshot.place]? = some (.instruction body))
      (tracing : machine.traceEvents body snapshot.registers = .ok traced)
      (effect : body.operation.effect machine.limit snapshot.place snapshot.registers =
        .error failure) :
      Makes machine snapshot (.ended (traced ++ snapshot.events)
        (.error (.evalFailed snapshot.place body.line body.text failure)))
  | untraceable {body : Instruction Int} {cause : Violation}
      (found : machine.cells[snapshot.place]? = some (.instruction body))
      (tracing : machine.traceEvents body snapshot.registers = .error cause) :
      Makes machine snapshot (.ended snapshot.events (.error (.violation cause)))
  | noInstruction {token : Token Int} {cause : Violation}
      (found : machine.cells[snapshot.place]? = some token)
      (refused : token.asInstruction = .error cause) :
      Makes machine snapshot (.ended snapshot.events (.error (.violation cause)))
  | nothing (absent : machine.cells[snapshot.place]? = none) :
      Makes machine snapshot (.ended snapshot.events (.error .emptyProgram))

variable {machine : Machine}

private theorem step_of_found {snapshot : Snapshot} {body : Instruction Int}
    (found : machine.cells[snapshot.place]? = some (.instruction body)) :
    machine.step snapshot = machine.execute snapshot body := by
  simp only [step, found, Token.asInstruction]

private theorem makes_execute {snapshot : Snapshot} {body : Instruction Int}
    (found : machine.cells[snapshot.place]? = some (.instruction body)) :
    machine.Makes snapshot (machine.execute snapshot body) := by
  unfold execute
  cases tracing : machine.traceEvents body snapshot.registers with
  | error cause => exact .untraceable found tracing
  | ok traced =>
      cases effect : body.operation.effect machine.limit snapshot.place snapshot.registers with
      | error failure => exact .fail found tracing effect
      | ok control =>
          cases control with
          | halt reason => exact .halt found tracing effect
          | jump target registers computed =>
              by_cases inside : 0 ≤ target ∧ target < machine.cells.length
              · simp only [arrive, if_pos inside]
                exact .jump found tracing effect inside
              · simp only [arrive, if_neg inside]
                cases written : checkNumerals machine.limit [target] with
                | ok _ => exact .leave found tracing effect inside written
                | error cause => exact .leaveUnwritten found tracing effect inside written

theorem makes_step (machine : Machine) (snapshot : Snapshot) :
    machine.Makes snapshot (machine.step snapshot) := by
  cases found : machine.cells[snapshot.place]? with
  | none =>
      simp only [step, found]
      exact .nothing found
  | some token =>
      cases token with
      | instruction body =>
          rw [step_of_found found]
          exact makes_execute found
      | label name text line =>
          simp only [step, found, Token.asInstruction]
          exact .noInstruction found rfl
      | trace text line =>
          simp only [step, found, Token.asInstruction]
          exact .noInstruction found rfl

/-- A machine makes exactly one move from each snapshot. -/
theorem step_eq_iff {snapshot : Snapshot} {move : Move} :
    machine.step snapshot = move ↔ machine.Makes snapshot move := by
  constructor
  · rintro rfl
    exact makes_step machine snapshot
  · intro makes
    cases makes with
    | jump found tracing effect inside =>
        simp only [step_of_found found, execute, tracing, effect, arrive, if_pos inside]
    | leave found tracing effect outside written =>
        simp only [step_of_found found, execute, tracing, effect, arrive, if_neg outside, written]
    | leaveUnwritten found tracing effect outside unwritten =>
        simp only [step_of_found found, execute, tracing, effect, arrive, if_neg outside,
          unwritten]
    | halt found tracing effect => simp only [step_of_found found, execute, tracing, effect]
    | fail found tracing effect => simp only [step_of_found found, execute, tracing, effect]
    | untraceable found tracing => simp only [step_of_found found, execute, tracing]
    | noInstruction found refused => simp only [step, found, refused]
    | nothing absent => simp only [step, absent]

/-- A step that goes on is counted. -/
theorem steps_of_step {snapshot next : Snapshot} (moved : machine.step snapshot = .onward next) :
    next.steps = snapshot.steps + 1 := by
  cases step_eq_iff.mp moved
  rfl

/-- No step ends a run for want of budget. -/
theorem halted_of_step {snapshot : Snapshot} {events : List Event} {result : RunResult}
    (ended : machine.step snapshot = .ended events (.ok result)) :
    ∃ reason, result.outcome = .halted reason := by
  cases step_eq_iff.mp ended with
  | halt found tracing effect => exact ⟨_, rfl⟩

/-! ## Steps in sequence -/

/-- The machine goes on for a number of steps. -/
inductive Onward (machine : Machine) : Nat → Snapshot → Snapshot → Prop where
  | refl (snapshot : Snapshot) : Onward machine 0 snapshot snapshot
  | step {count : Nat} {first middle last : Snapshot}
      (moved : machine.step first = .onward middle) (later : Onward machine count middle last) :
      Onward machine (count + 1) first last

variable {count : Nat} {first last : Snapshot}

theorem Onward.steps (onward : machine.Onward count first last) :
    last.steps = first.steps + count := by
  induction onward with
  | refl snapshot => rfl
  | step moved later inductionHypothesis =>
      rw [inductionHypothesis, steps_of_step moved]
      omega

/-- The budget of a run is first spent on the steps that go on. -/
theorem Onward.advance_add (onward : machine.Onward count first last) (budget : Nat) :
    machine.advance (count + budget) first = machine.advance budget last := by
  induction onward with
  | refl snapshot => rw [Nat.zero_add]
  | @step count first middle last moved later inductionHypothesis =>
      rw [Nat.add_right_comm, advance, moved]
      exact inductionHypothesis

theorem Onward.advance_eq (onward : machine.Onward count first last) :
    machine.advance count first =
      ⟨last.events.reverse, .ok ⟨last.registers, .budgetExceeded, last.steps, last.place⟩⟩ :=
  onward.advance_add 0

/-- A run ends at the first step that does not go on, however much of the budget is left. -/
theorem Onward.advance_of_ended {events : List Event} {result : Except RunError RunResult}
    (onward : machine.Onward count first last) (ended : machine.step last = .ended events result)
    {budget : Nat} (enough : count < budget) :
    machine.advance budget first = ⟨events.reverse, result⟩ := by
  obtain ⟨rest, rfl⟩ := Nat.exists_eq_add_of_lt enough
  rw [Nat.add_assoc, onward.advance_add, advance, ended]

/-- Either all steps of a budget go on, or one of them ends the run. -/
theorem onward_or_ended (machine : Machine) (budget : Nat) (first : Snapshot) :
    (∃ last, machine.Onward budget first last) ∨
      ∃ count last events result, count < budget ∧ machine.Onward count first last ∧
        machine.step last = .ended events result := by
  induction budget generalizing first with
  | zero => exact .inl ⟨first, .refl first⟩
  | succ budget inductionHypothesis =>
      cases moved : machine.step first with
      | ended events result =>
          exact .inr ⟨0, first, events, result, Nat.succ_pos budget, .refl first, moved⟩
      | onward middle =>
          rcases inductionHypothesis middle with
            ⟨last, onward⟩ | ⟨count, last, events, result, below, onward, ended⟩
          · exact .inl ⟨last, .step moved onward⟩
          · exact .inr ⟨count + 1, last, events, result, Nat.succ_lt_succ below,
              .step moved onward, ended⟩

end CounterMachine.Machine
