import CounterMachine.Proofs.Machine.Running

/-!
Contract: the snapshots that a run comes to.

Owns: the list of snapshots at which a run fetches an instruction, in the order in which it comes
to them; that these are the ones that steps lead to within the budget; and that a run comes out
of the last of them, or of using up its budget.

Does not own: what holds of all of them.
-/

set_option autoImplicit false

namespace CounterMachine

namespace Machine

/-- The snapshots that at most `budget` steps are taken from. -/
def visitsFrom (machine : Machine) : Nat → Snapshot → List Snapshot
  | 0, _ => []
  | budget + 1, snapshot =>
      snapshot ::
        match machine.step snapshot with
        | .onward next => machine.visitsFrom budget next
        | .ended _ _ => []

/-- The snapshots at which a run fetches an instruction. A run that is not started has none. -/
def visits (machine : Machine) (arguments : List Int) : List Snapshot :=
  match machine.settings.check with
  | .error _ => []
  | .ok () =>
      match RegisterFile.ofArguments machine.limit arguments with
      | .error _ => []
      | .ok registers => machine.visitsFrom machine.settings.maxSteps.toNat ⟨0, 0, registers, []⟩

variable {machine : Machine} {budget : Nat} {first last : Snapshot}

/-- A run visits what fewer steps lead to than its budget allows. -/
theorem mem_visitsFrom_iff :
    last ∈ machine.visitsFrom budget first ↔
      ∃ count, count < budget ∧ machine.Onward count first last := by
  induction budget generalizing first with
  | zero =>
      constructor
      · intro member
        cases member
      · rintro ⟨count, below, -⟩
        exact absurd below (Nat.not_lt_zero count)
  | succ budget inductionHypothesis =>
      rw [visitsFrom, List.mem_cons]
      constructor
      · rintro (rfl | later)
        · exact ⟨0, Nat.succ_pos budget, .refl last⟩
        · split at later
          · next next moved =>
            obtain ⟨count, below, onward⟩ := inductionHypothesis.mp later
            exact ⟨count + 1, Nat.succ_lt_succ below, .step moved onward⟩
          · cases later
      · rintro ⟨count, below, onward⟩
        cases onward with
        | refl => exact .inl rfl
        | step moved later =>
            right
            rw [moved]
            exact inductionHypothesis.mpr ⟨_, Nat.lt_of_succ_lt_succ below, later⟩

/-- What holds at the start and is kept by every step holds wherever steps lead to. -/
theorem Onward.invariant {holds : Snapshot → Prop} {count : Nat}
    (onward : machine.Onward count first last)
    (kept : ∀ snapshot next, holds snapshot → machine.step snapshot = .onward next → holds next)
    (start : holds first) : holds last := by
  induction onward with
  | refl snapshot => exact start
  | step moved later inductionHypothesis => exact inductionHypothesis (kept _ _ start moved)

/-- A run returns for want of budget where its steps have led to, or as the step that it takes
from a snapshot that it visits. -/
theorem advance_cases (machine : Machine) (budget : Nat) (first : Snapshot) :
    (∃ last, machine.Onward budget first last ∧
      (machine.advance budget first).result =
        .ok ⟨last.registers, .budgetExceeded, last.steps, last.place⟩) ∨
    ∃ last ∈ machine.visitsFrom budget first, ∃ events result,
      machine.step last = .ended events result ∧
        (machine.advance budget first).result = result := by
  rcases machine.onward_or_ended budget first with
    ⟨last, onward⟩ | ⟨count, last, events, result, below, onward, ended⟩
  · exact .inl ⟨last, onward, by rw [onward.advance_eq]⟩
  · refine .inr ⟨last, mem_visitsFrom_iff.mpr ⟨count, below, onward⟩, events, result, ended, ?_⟩
    rw [onward.advance_of_ended ended below]

section Started

variable {arguments : List Int} {registers : RegisterFile}
  (positive : 0 < machine.settings.maxSteps)
  (accepted : RegisterFile.ofArguments machine.limit arguments = .ok registers)
include positive accepted

theorem run_eq_advance :
    machine.run arguments =
      machine.advance machine.settings.maxSteps.toNat ⟨0, 0, registers, []⟩ := by
  simp only [run, Settings.check_eq_ok positive, accepted]

theorem visits_eq_visitsFrom :
    machine.visits arguments =
      machine.visitsFrom machine.settings.maxSteps.toNat ⟨0, 0, registers, []⟩ := by
  simp only [visits, Settings.check_eq_ok positive, accepted]

end Started

/-- A run is refused and visits nothing, or it is started at the first place. -/
theorem refused_or_started (machine : Machine) (arguments : List Int) :
    (∃ cause, machine.run arguments = ⟨[], .error (.violation cause)⟩ ∧
      machine.visits arguments = []) ∨
    ∃ registers, RegisterFile.ofArguments machine.limit arguments = .ok registers ∧
      machine.run arguments =
        machine.advance machine.settings.maxSteps.toNat ⟨0, 0, registers, []⟩ ∧
      machine.visits arguments =
        machine.visitsFrom machine.settings.maxSteps.toNat ⟨0, 0, registers, []⟩ := by
  unfold run visits
  cases machine.settings.check with
  | error cause => exact .inl ⟨cause, rfl, rfl⟩
  | ok _ =>
      cases RegisterFile.ofArguments machine.limit arguments with
      | error cause => exact .inl ⟨cause, rfl, rfl⟩
      | ok registers => exact .inr ⟨registers, rfl, rfl, rfl⟩

/-- A run is refused, returns for want of budget, or comes out of the step that it takes from a
snapshot that it visits. -/
theorem run_cases (machine : Machine) (arguments : List Int) :
    (∃ cause, (machine.run arguments).result = .error (.violation cause)) ∨
    (∃ registers steps place,
      (machine.run arguments).result = .ok ⟨registers, .budgetExceeded, steps, place⟩) ∨
    ∃ last ∈ machine.visits arguments, ∃ events result,
      machine.step last = .ended events result ∧ (machine.run arguments).result = result := by
  rcases machine.refused_or_started arguments with
    ⟨cause, refused, -⟩ | ⟨registers, -, ran, visited⟩
  · exact .inl ⟨cause, by rw [refused]⟩
  · rw [ran, visited]
    rcases machine.advance_cases machine.settings.maxSteps.toNat ⟨0, 0, registers, []⟩ with
      ⟨last, -, exceeded⟩ | ended
    · exact .inr (.inl ⟨_, _, _, exceeded⟩)
    · exact .inr (.inr ended)

end Machine

/-- The snapshots at which a run of a linked program fetches an instruction. -/
def Program.visits (limit : Text.DigitLimit) (settings : Settings) (program : Program)
    (arguments : List Int) : List Snapshot :=
  Machine.visits ⟨program.tokens, settings, limit⟩ arguments

end CounterMachine
