import CounterMachine.Proofs.Machine.Running

/-!
Contract: two machines side by side.

Owns: what it means for two machines to keep in step, which is a condition on single moves, and
that machines which keep in step have runs that are alike, whatever the budget.

Does not own: which snapshots are related and which runs are alike. Both relations are parameters.
-/

set_option autoImplicit false

namespace CounterMachine

/-- Both moves go on to related snapshots, or both end runs that are alike. -/
inductive Move.Alike (related : Snapshot → Snapshot → Prop) (alike : Run → Run → Prop) :
    Move → Move → Prop where
  | onward {next other : Snapshot} (kept : related next other) :
      Alike related alike (.onward next) (.onward other)
  | ended {events otherEvents : List Event} {result otherResult : Except RunError RunResult}
      (same : alike ⟨events.reverse, result⟩ ⟨otherEvents.reverse, otherResult⟩) :
      Alike related alike (.ended events result) (.ended otherEvents otherResult)

namespace Machine

/-- From related snapshots the machines move alike, and runs that stop there for want of budget are
alike. -/
structure InStep (related : Snapshot → Snapshot → Prop) (alike : Run → Run → Prop)
    (machine other : Machine) : Prop where
  step {snapshot otherSnapshot : Snapshot} (start : related snapshot otherSnapshot) :
    Move.Alike related alike (machine.step snapshot) (other.step otherSnapshot)
  exhausted {snapshot otherSnapshot : Snapshot} (start : related snapshot otherSnapshot) :
    alike (machine.advance 0 snapshot) (other.advance 0 otherSnapshot)

variable {related : Snapshot → Snapshot → Prop} {alike : Run → Run → Prop}
  {machine other : Machine}

/-- By induction on the budget, each machine taking one step. -/
theorem InStep.advance (inStep : InStep related alike machine other) (budget : Nat)
    {first otherFirst : Snapshot} (start : related first otherFirst) :
    alike (machine.advance budget first) (other.advance budget otherFirst) := by
  induction budget generalizing first otherFirst with
  | zero => exact inStep.exhausted start
  | succ budget inductionHypothesis =>
      have moves := inStep.step start
      rw [Machine.advance, Machine.advance]
      generalize machine.step first = move at moves ⊢
      generalize other.step otherFirst = otherMove at moves ⊢
      cases moves with
      | onward kept => exact inductionHypothesis kept
      | ended same => exact same

/-- Runs under the same settings are alike if their arguments are refused for one reason or seed
related snapshots. -/
theorem InStep.run (inStep : InStep related alike machine other)
    (settings : machine.settings = other.settings)
    (refused : ∀ cause, alike ⟨[], .error (.violation cause)⟩ ⟨[], .error (.violation cause)⟩)
    {arguments otherArguments : List Int}
    (seeds : (∃ cause, RegisterFile.ofArguments machine.limit arguments = .error cause ∧
        RegisterFile.ofArguments other.limit otherArguments = .error cause) ∨
      ∃ registers otherRegisters, RegisterFile.ofArguments machine.limit arguments = .ok registers ∧
        RegisterFile.ofArguments other.limit otherArguments = .ok otherRegisters ∧
        related ⟨0, 0, registers, []⟩ ⟨0, 0, otherRegisters, []⟩) :
    alike (machine.run arguments) (other.run otherArguments) := by
  unfold Machine.run
  rw [settings]
  cases other.settings.check with
  | error cause => exact refused cause
  | ok _ =>
      rcases seeds with ⟨cause, bad, otherBad⟩ | ⟨registers, otherRegisters, good, otherGood, start⟩
      · simp only [bad, otherBad]
        exact refused cause
      · simp only [good, otherGood]
        exact inStep.advance _ start

/-- The same arguments are refused for one reason or seed the same registers. -/
theorem InStep.run_same (inStep : InStep related alike machine other)
    (settings : machine.settings = other.settings) (limit : machine.limit = other.limit)
    (refused : ∀ cause, alike ⟨[], .error (.violation cause)⟩ ⟨[], .error (.violation cause)⟩)
    (start : ∀ registers, related ⟨0, 0, registers, []⟩ ⟨0, 0, registers, []⟩)
    (arguments : List Int) : alike (machine.run arguments) (other.run arguments) := by
  refine inStep.run settings refused ?_
  rw [limit]
  cases RegisterFile.ofArguments other.limit arguments with
  | error cause => exact .inl ⟨cause, rfl, rfl⟩
  | ok registers => exact .inr ⟨registers, registers, rfl, rfl, start registers⟩

end Machine

end CounterMachine
