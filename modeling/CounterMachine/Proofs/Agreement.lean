import CounterMachine.Instruction
import Mathlib.Data.List.Forall2

/-!
Contract: agreement of programs, place by place.

Owns: what it means for two operations and for two programs to agree, in terms of their
parts.

Agreement compares actions, which are operations without the reasons of halts; texts, lines,
labels and trace flags never enter.
-/

set_option autoImplicit false

namespace CounterMachine

theorem Operation.sameAction_iff {Jump : Type} [DecidableEq Jump] {left right : Operation Jump} :
    left.sameAction right = true ↔ left.action = right.action :=
  beq_iff_eq

theorem Program.agrees_iff_forall₂ {left right : Program} :
    left.agrees right = true ↔
      List.Forall₂ (fun first second => first.operation.action = second.operation.action)
        left right := by
  induction left generalizing right with
  | nil =>
      cases right with
      | nil => exact ⟨fun _ => .nil, fun _ => rfl⟩
      | cons head tail =>
          constructor
          · intro impossible
            cases impossible
          · intro impossible
            cases impossible
  | cons first firsts inductionHypothesis =>
      cases right with
      | nil =>
          constructor
          · intro impossible
            cases impossible
          · intro impossible
            cases impossible
      | cons second seconds =>
          rw [Program.agrees, Bool.and_eq_true, Operation.sameAction_iff, inductionHypothesis,
            List.forall₂_cons]

/-- Programs agree when they have one length and the same actions at every place. -/
theorem Program.agrees_iff {left right : Program} :
    left.agrees right = true ↔
      left.length = right.length ∧
        ∀ (index : Nat) (inLeft : index < left.length) (inRight : index < right.length),
          left[index].operation.action = right[index].operation.action := by
  rw [Program.agrees_iff_forall₂]
  exact List.forall₂_iff_get

/-- Instructions that keep their places agree with the program they come from exactly when
each keeps its action. -/
theorem Program.agrees_mapIdx_iff {program : Program}
    {change : Nat → Instruction Int → Instruction Int} :
    Program.agrees (program.mapIdx change) program = true ↔
      ∀ (index : Nat) (inside : index < program.length),
        (change index program[index]).operation.action = program[index].operation.action := by
  rw [Program.agrees_iff]
  constructor
  · rintro ⟨length, same⟩ index inside
    have place := same index (length ▸ inside) inside
    rw [List.getElem_mapIdx] at place
    exact place
  · intro same
    refine ⟨List.length_mapIdx, fun index _ inside => ?_⟩
    rw [List.getElem_mapIdx]
    exact same index inside

end CounterMachine
