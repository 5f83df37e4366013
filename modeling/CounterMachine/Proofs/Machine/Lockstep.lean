import CounterMachine.Proofs.Agreement
import CounterMachine.Proofs.Machine.Running

/-!
Contract: two instructions with one action, executed side by side.

Owns: which snapshots are alike, which moves from alike snapshots are the same, and that
instructions with one action make the same move as long as both can be traced.

Does not own: programs and runs. Whether an instruction can be traced is a condition here.

## What may differ

Events are never compared. Reasons, lines and texts of the instructions are not compared
either, but they are told by the moves that show them, so that instructions which have them in
common make moves which have them in common.
-/

set_option autoImplicit false

namespace CounterMachine

open Text

namespace Operation

private theorem action_eq_self_or_halts (operation : Operation Int) :
    operation.action = operation ∨ ∃ reason, operation = .halt reason := by
  cases operation with
  | halt reason => exact .inr ⟨reason, rfl⟩
  | init register value => exact .inl rfl
  | inc register next => exact .inl rfl
  | dec register onPositive onZero => exact .inl rfl
  | eval description register code => exact .inl rfl

/-- Operations with one action differ at most in the reason of a halt. -/
theorem eq_or_halts_of_action_eq {left right : Operation Int}
    (same : left.action = right.action) :
    left = right ∨ ∃ reason otherReason, left = .halt reason ∧ right = .halt otherReason := by
  rcases left.action_eq_self_or_halts with self | ⟨reason, rfl⟩
  · rcases right.action_eq_self_or_halts with otherSelf | ⟨otherReason, rfl⟩
    · exact .inl (self.symm.trans (same.trans otherSelf))
    · exact .inr ⟨"", otherReason, self.symm.trans same, rfl⟩
  · rcases right.action_eq_self_or_halts with otherSelf | ⟨otherReason, rfl⟩
    · exact .inr ⟨reason, "", rfl, otherSelf.symm.trans same.symm⟩
    · exact .inr ⟨reason, otherReason, rfl, rfl⟩

/-- Only a halt stops control. -/
theorem eq_halt_of_effect {operation : Operation Int} {limit : DigitLimit} {index : Nat}
    {registers : RegisterFile} {reason : String}
    (stops : operation.effect limit index registers = .ok (.halt reason)) :
    operation = .halt reason := by
  cases operation with
  | halt known =>
      cases stops
      rfl
  | init register value => cases stops
  | inc register next => cases stops
  | dec register onPositive onZero =>
      simp only [effect] at stops
      split at stops
      · cases stops
      · cases stops
  | eval description register code =>
      simp only [effect] at stops
      split at stops
      · cases stops
      · cases stops

end Operation

/-! ## Cells of a program -/

/-- A machine whose cells are the instructions of a program executes the one it has reached. -/
theorem Machine.step_of_cells (machine : Machine) {program : Program}
    (cells : machine.cells = program.tokens) (snapshot : Snapshot) :
    machine.step snapshot =
      match program[snapshot.place]? with
      | none => .ended snapshot.events (.error .emptyProgram)
      | some body => machine.execute snapshot body := by
  rw [step, cells, Program.tokens_getElem?]
  cases program[snapshot.place]? with
  | none => rfl
  | some body => rfl

/-! ## Execution side by side -/

/-- The snapshots differ at most in what was seen before. -/
structure Snapshot.Alike (left right : Snapshot) : Prop where
  place : left.place = right.place
  steps : left.steps = right.steps
  registers : left.registers = right.registers

namespace Machine

/-- Moves that two instructions make in the same way. -/
inductive SameMove (limit : DigitLimit) (left right : Instruction Int) : Move → Move → Prop where
  | onward {next other : Snapshot} (alike : next.Alike other) :
      SameMove limit left right (.onward next) (.onward other)
  | halt {reason otherReason : String} {registers : RegisterFile} {steps place : Nat}
      {events otherEvents : List Event} (operation : left.operation = .halt reason)
      (otherOperation : right.operation = .halt otherReason) :
      SameMove limit left right (.ended events (.ok ⟨registers, .halted reason, steps, place⟩))
        (.ended otherEvents (.ok ⟨registers, .halted otherReason, steps, place⟩))
  | fail {place : Nat} {failure : EvalFailure} {events otherEvents : List Event} :
      SameMove limit left right
        (.ended events (.error (.evalFailed place left.line left.text failure)))
        (.ended otherEvents (.error (.evalFailed place right.line right.text failure)))
  | leave {place size : Nat} {target : Int} {events otherEvents : List Event} :
      SameMove limit left right
        (.ended events (.error (.outOfBounds place left.line left.text target size)))
        (.ended otherEvents (.error (.outOfBounds place right.line right.text target size)))
  | leaveUnwritten {target : Int} {cause : Violation} {events otherEvents : List Event}
      (unwritten : checkNumerals limit [target] = .error cause) :
      SameMove limit left right (.ended events (.error (.violation cause)))
        (.ended otherEvents (.error (.violation cause)))

variable {snapshot otherSnapshot : Snapshot} {left right : Instruction Int}

/-- Instructions with one action, both of which can be traced, do the same to registers and
control. -/
theorem execute_same (machine other : Machine) (limit : machine.limit = other.limit)
    (size : machine.cells.length = other.cells.length) (alike : snapshot.Alike otherSnapshot)
    (action : left.operation.action = right.operation.action) {traced otherTraced : List Event}
    (tracing : machine.traceEvents left snapshot.registers = .ok traced)
    (otherTracing : other.traceEvents right otherSnapshot.registers = .ok otherTraced) :
    SameMove other.limit left right (machine.execute snapshot left)
      (other.execute otherSnapshot right) := by
  obtain ⟨place, steps, registers⟩ := alike
  simp only [execute, tracing, otherTracing]
  rcases Operation.eq_or_halts_of_action_eq action with
    operation | ⟨reason, otherReason, halts, otherHalts⟩
  · rw [operation, limit, place, registers]
    cases effect : right.operation.effect other.limit otherSnapshot.place
        otherSnapshot.registers with
    | error failure => exact .fail
    | ok control =>
        cases control with
        | halt reason =>
            have halts := Operation.eq_halt_of_effect effect
            rw [steps]
            exact .halt (operation.trans halts) halts
        | jump target changed computed =>
            simp only [arrive, size, limit, place, steps]
            by_cases inside : 0 ≤ target ∧ target < other.cells.length
            · rw [if_pos inside, if_pos inside]
              exact .onward ⟨rfl, rfl, rfl⟩
            · rw [if_neg inside, if_neg inside]
              cases unwritten : checkNumerals other.limit [target] with
              | ok _ => exact .leave
              | error cause => exact .leaveUnwritten unwritten
  · simp only [halts, otherHalts, Operation.effect, place, steps, registers]
    exact .halt halts otherHalts

end Machine

end CounterMachine
