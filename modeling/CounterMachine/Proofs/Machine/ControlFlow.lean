import CounterMachine.Proofs.Machine.Refinement
import CounterMachine.Proofs.Machine.Visits

/-!
Contract: where control can go in a program.

Owns: that an operation passes control only to a place that it is said to lead to; the places
that are reached in this way from the first instruction; that runs visit no others; and that a
program of which none leads outside only halts, uses up its budget or fails in an evaluation.

Does not own: which programs are of this kind.
-/

set_option autoImplicit false

namespace CounterMachine

open Text

/-- Control passes to a place that the operation is said to lead to. -/
theorem Operation.mem_jumpTargets_of_effect {operation : Operation Int} {limit : DigitLimit}
    {index : Nat} {registers changed : RegisterFile} {target : Int} {events : List Event}
    (effect : operation.effect limit index registers = .ok (.jump target changed events)) :
    target ∈ operation.jumpTargets (index + 1 : Int) := by
  cases operation with
  | init register value =>
      cases effect
      exact List.mem_cons_self
  | inc register next =>
      cases effect
      exact List.mem_cons_self
  | dec register onPositive onZero =>
      simp only [Operation.effect] at effect
      split at effect
      · cases effect
        exact List.mem_cons_self
      · cases effect
        exact List.mem_cons_of_mem _ List.mem_cons_self
  | halt reason => cases effect
  | eval description register code =>
      simp only [Operation.effect] at effect
      split at effect
      · cases effect
        exact List.mem_cons_self
      · cases effect

/-! ## Reached places -/

/-- The places inside the program that instructions lead to, one after the other, from the first
place on. -/
inductive Program.Reaches (program : Program) : Nat → Prop where
  | start : Reaches program 0
  | jump {place next : Nat} {body : Instruction Int} (reached : Reaches program place)
      (found : program[place]? = some body)
      (leads : (next : Int) ∈ body.operation.jumpTargets (place + 1 : Int))
      (inside : next < program.length) : Reaches program next

/-- No instruction at a reached place leads outside the program. -/
def Program.Confined (program : Program) : Prop :=
  ∀ place body, program.Reaches place → program[place]? = some body →
    ∀ target ∈ body.operation.jumpTargets (place + 1 : Int), 0 ≤ target ∧ target < program.length

theorem Program.Reaches.inside {program : Program} {place : Nat} (reached : program.Reaches place)
    (nonempty : program ≠ []) : place < program.length := by
  cases reached with
  | start => exact List.length_pos_iff.mpr nonempty
  | jump reached found leads inside => exact inside

/-! ## Runs -/

section Runs

variable {machine : Machine} {program : Program} (cells : machine.cells = program.tokens)
include cells

theorem Machine.reaches_of_step {snapshot next : Snapshot}
    (reached : program.Reaches snapshot.place) (moved : machine.step snapshot = .onward next) :
    program.Reaches next.place := by
  cases Machine.step_eq_iff.mp moved with
  | jump cell tracing effect inside =>
      rw [cells, Program.length_tokens] at inside
      rw [cells, Program.tokens_getElem?_eq_some_iff] at cell
      have target := Int.toNat_of_nonneg inside.1
      refine .jump reached cell ?_ ((Int.toNat_lt inside.1).mpr inside.2)
      rw [target]
      exact Operation.mem_jumpTargets_of_effect effect

/-- By induction on the steps that lead to the snapshot. -/
theorem Machine.reaches_of_mem_visitsFrom {budget : Nat} {registers : RegisterFile}
    {snapshot : Snapshot} (member : snapshot ∈ machine.visitsFrom budget ⟨0, 0, registers, []⟩) :
    program.Reaches snapshot.place := by
  obtain ⟨count, -, onward⟩ := Machine.mem_visitsFrom_iff.mp member
  exact onward.invariant (fun _ _ => Machine.reaches_of_step cells) Program.Reaches.start

end Runs

section Confined

variable {program : Program} {settings : Settings}

/-- Where nothing leads outside, a step ends a run only by halting or by failing to evaluate. -/
theorem Program.Confined.of_ended {snapshot : Snapshot} (confined : program.Confined)
    (nonempty : program ≠ []) (reached : program.Reaches snapshot.place) {events : List Event}
    {result : Except RunError RunResult}
    (ended : (program.machine settings).step snapshot = .ended events result) :
    (∃ registers reason steps place, result = .ok ⟨registers, .halted reason, steps, place⟩) ∨
      ∃ place line text failure, result = .error (.evalFailed place line text failure) := by
  cases Machine.step_eq_iff.mp ended with
  | leave found tracing effect outside written =>
      rw [Program.machine, Program.length_tokens] at outside
      have here := Program.tokens_getElem?_eq_some_iff.mp found
      exact absurd (confined _ _ reached here _ (Operation.mem_jumpTargets_of_effect effect))
        outside
  | leaveUnwritten found tracing effect outside unwritten => cases unwritten
  | halt found tracing effect => exact .inl ⟨_, _, _, _, rfl⟩
  | fail found tracing effect => exact .inr ⟨_, _, _, _, rfl⟩
  | @untraceable body cause found tracing =>
      obtain ⟨traced, possible⟩ := exists_traceEvents settings body snapshot.registers
      cases possible.symm.trans tracing
  | noInstruction found refused =>
      rw [Program.machine, Program.tokens_getElem?, Option.map_eq_some_iff] at found
      obtain ⟨body, -, rfl⟩ := found
      cases refused
  | nothing absent =>
      rw [Program.machine, List.getElem?_eq_none_iff, Program.length_tokens] at absent
      exact absurd (reached.inside nonempty) (Nat.not_lt.mpr absent)

/-- A run of a program that nothing leads out of halts, uses up its budget or fails in an
evaluation. -/
theorem Program.Confined.run_cases (confined : program.Confined) (nonempty : program ≠ [])
    {arguments : List Int} (natural : ∀ value ∈ arguments, 0 ≤ value)
    (positive : 0 < settings.maxSteps) :
    let result := (program.run .unlimited settings arguments).result
    (∃ registers reason steps place, result = .ok ⟨registers, .halted reason, steps, place⟩) ∨
      (∃ registers steps place, result = .ok ⟨registers, .budgetExceeded, steps, place⟩) ∨
      ∃ place line text failure, result = .error (.evalFailed place line text failure) := by
  intro result
  obtain ⟨registers, accepted, -⟩ := RegisterFile.ofArguments_eq_ok .unlimited natural
  have ran : result = ((program.machine settings).advance settings.maxSteps.toNat
      ⟨0, 0, registers, []⟩).result :=
    congrArg Run.result (Machine.run_eq_advance positive accepted)
  rcases (program.machine settings).advance_cases settings.maxSteps.toNat ⟨0, 0, registers, []⟩
    with ⟨last, -, exceeded⟩ | ⟨last, member, events, ending, ended, same⟩
  · exact .inr (.inl ⟨_, _, _, ran.trans exceeded⟩)
  · rw [ran, same]
    have reached := Machine.reaches_of_mem_visitsFrom rfl member
    rcases confined.of_ended nonempty reached ended with halted | failed
    · exact .inl halted
    · exact .inr (.inr failed)

end Confined

end CounterMachine
