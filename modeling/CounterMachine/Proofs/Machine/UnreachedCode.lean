import CounterMachine.Proofs.Machine.ControlFlow
import CounterMachine.Proofs.Machine.Simulation
import CounterMachine.Proofs.Machine.Lockstep

/-!
Contract: a program is what stands at the places that it reaches.

Owns: that no run leaves these places, whatever its arguments, its settings and the limit on
numerals; what follows where none of their instructions leads outside, and where none of them is a
halt; and that instructions at other places can be exchanged without changing any run.

Does not own: how the reached places are computed.
-/

set_option autoImplicit false

namespace CounterMachine

open Text

/-- No instruction at a reached place is a halt. -/
def Program.Endless (program : Program) : Prop :=
  ∀ place body reason, program.Reaches place → program[place]? = some body →
    body.operation ≠ .halt reason

/-- The other program is as long, and has the same instructions at the places that the program
reaches. -/
structure Program.SameWhereReached (program other : Program) : Prop where
  length : other.length = program.length
  instructions : ∀ place, program.Reaches place → other[place]? = program[place]?

/-- Places that are closed under the jumps inside the program include all that it reaches. -/
theorem Program.Reaches.mem_of_closed {program : Program} {places : List Nat} (start : 0 ∈ places)
    (closed : ∀ place ∈ places, ∀ body ∈ program[place]?,
      ∀ target ∈ body.operation.jumpTargets (place + 1 : Int),
        0 ≤ target ∧ target < program.length → target.toNat ∈ places)
    {place : Nat} (reached : program.Reaches place) : place ∈ places := by
  induction reached with
  | start => exact start
  | @jump place next body reached found leads inside inductionHypothesis =>
      have bounds : 0 ≤ (next : Int) ∧ (next : Int) < program.length :=
        ⟨Int.natCast_nonneg next, Int.ofNat_lt.mpr inside⟩
      exact closed place inductionHypothesis body found next leads bounds

/-! ## Steps -/

/-- An instruction is executed in the same way by machines of one size under the same settings. -/
theorem Machine.execute_congr (machine other : Machine)
    (settings : machine.settings = other.settings) (limit : machine.limit = other.limit)
    (size : machine.cells.length = other.cells.length) (snapshot : Snapshot)
    (body : Instruction Int) :
    machine.execute snapshot body = other.execute snapshot body := by
  simp only [execute, traceEvents, arrive, settings, limit, size]

section Steps

variable {program : Program} {limit : DigitLimit} {settings : Settings} {snapshot : Snapshot}

/-- Where nothing leads outside, no step leaves the program. -/
theorem Program.Confined.not_outOfBounds (confined : program.Confined)
    (reached : program.Reaches snapshot.place) {events : List Event}
    {index size : Nat} {line target : Int} {text : String} :
    Machine.step ⟨program.tokens, settings, limit⟩ snapshot ≠
      .ended events (.error (.outOfBounds index line text target size)) := by
  intro ended
  cases Machine.step_eq_iff.mp ended with
  | leave found tracing effect outside written =>
      rw [Program.length_tokens] at outside
      have here := Program.tokens_getElem?_eq_some_iff.mp found
      exact outside (confined _ _ reached here _ (Operation.mem_jumpTargets_of_effect effect))

/-- Where there is no halt, no step halts. -/
theorem Program.Endless.not_halted (endless : program.Endless)
    (reached : program.Reaches snapshot.place) {events : List Event} {result : RunResult}
    {reason : String} (halted : result.outcome = .halted reason) :
    Machine.step ⟨program.tokens, settings, limit⟩ snapshot ≠ .ended events (.ok result) := by
  intro ended
  cases Machine.step_eq_iff.mp ended with
  | halt found tracing effect =>
      have here := Program.tokens_getElem?_eq_some_iff.mp found
      exact endless _ _ _ reached here (Operation.eq_halt_of_effect effect)

/-- At a reached place both programs have the same instruction to execute. -/
theorem Program.SameWhereReached.step_eq {other : Program} (same : program.SameWhereReached other)
    (reached : program.Reaches snapshot.place) :
    Machine.step ⟨other.tokens, settings, limit⟩ snapshot =
      Machine.step ⟨program.tokens, settings, limit⟩ snapshot := by
  have size : other.tokens.length = program.tokens.length := by
    rw [Program.length_tokens, Program.length_tokens, same.length]
  rw [Machine.step_of_cells _ rfl, Machine.step_of_cells _ rfl, same.instructions _ reached]
  cases program[snapshot.place]? with
  | none => rfl
  | some body =>
      exact Machine.execute_congr ⟨other.tokens, settings, limit⟩ ⟨program.tokens, settings, limit⟩
        rfl rfl size snapshot body

/-- Only the steps at reached places are compared, and steps lead to no others. -/
theorem Program.SameWhereReached.inStep {other : Program} (same : program.SameWhereReached other)
    (settings : Settings) (limit : DigitLimit) :
    Machine.InStep
      (fun snapshot otherSnapshot => program.Reaches snapshot.place ∧ otherSnapshot = snapshot)
      (fun run otherRun => otherRun = run)
      ⟨program.tokens, settings, limit⟩ ⟨other.tokens, settings, limit⟩ where
  step := by
    rintro _ snapshot ⟨reached, rfl⟩
    rw [same.step_eq reached]
    cases moved : Machine.step ⟨program.tokens, settings, limit⟩ snapshot with
    | onward next => exact .onward ⟨Machine.reaches_of_step rfl reached moved, rfl⟩
    | ended events result => exact .ended rfl
  exhausted := by
    rintro _ snapshot ⟨-, rfl⟩
    rfl

end Steps

/-! ## Runs -/

/-- The jumps of instructions tell where runs can go. Every run stays at the places that the program
reaches from its first instruction. If none of these leads outside, no run jumps outside; if none
of them is a halt, no run halts; and what stands at the other places does not matter. -/
theorem run_within_reach (limit : DigitLimit) {program : Program} (nonempty : program ≠ [])
    (settings : Settings) (arguments : List Int) :
    let run := program.run limit settings arguments
    (∀ snapshot ∈ program.visits limit settings arguments,
      program.Reaches snapshot.place ∧ snapshot.place < program.length) ∧
    (program.Confined → ∀ index line text target size,
      run.result ≠ .error (.outOfBounds index line text target size)) ∧
    (program.Endless → ∀ registers reason steps place,
      run.result ≠ .ok ⟨registers, .halted reason, steps, place⟩) ∧
    ∀ other : Program, program.SameWhereReached other →
      other.run limit settings arguments = run := by
  intro run
  let machine : Machine := ⟨program.tokens, settings, limit⟩
  have visited : ∀ snapshot ∈ machine.visits arguments, program.Reaches snapshot.place := by
    intro snapshot member
    rcases machine.refused_or_started arguments with
      ⟨cause, -, visited⟩ | ⟨registers, -, -, visited⟩
    · rw [visited] at member
      cases member
    · rw [visited] at member
      exact Machine.reaches_of_mem_visitsFrom rfl member
  refine ⟨?_, ?_, ?_, ?_⟩
  · intro snapshot member
    have reached := visited snapshot member
    exact ⟨reached, reached.inside nonempty⟩
  · intro confined index line text target size left
    rcases machine.run_cases arguments with
      ⟨cause, refused⟩ | ⟨_, _, _, exceeded⟩ | ⟨last, member, events, result, ended, same⟩
    · cases refused.symm.trans left
    · cases exceeded.symm.trans left
    · rw [same.symm.trans left] at ended
      exact confined.not_outOfBounds (visited last member) ended
  · intro endless registers reason steps place halted
    rcases machine.run_cases arguments with
      ⟨cause, refused⟩ | ⟨_, _, _, exceeded⟩ | ⟨last, member, events, result, ended, same⟩
    · cases refused.symm.trans halted
    · cases exceeded.symm.trans halted
    · rw [same.symm.trans halted] at ended
      exact endless.not_halted (visited last member) rfl ended
  · intro other same
    exact (same.inStep settings limit).run_same rfl rfl (fun _ => rfl)
      (fun _ => ⟨.start, rfl⟩) arguments

/-- Counts up and down without end; the instruction in the middle is never reached. -/
def seesaw (unreached : Operation Int) : Program :=
  [⟨.inc "r0" 2, "r0+ -> 2", 1, false, none⟩, ⟨unreached, "", 2, false, none⟩,
    ⟨.dec "r0" 0 0, "r0- -> 0, 0", 3, true, none⟩]

/-- A jump far outside and a halt are alike where they are not reached. -/
theorem run_within_reach_seesaw :
    let program := seesaw (.inc "r0" 99)
    let other := seesaw (.halt "never")
    let run := program.run .unlimited ⟨5, false⟩ [7]
    program ≠ [] ∧ program.Confined ∧ program.Endless ∧ program.SameWhereReached other ∧
      (∀ index line text target size,
        run.result ≠ .error (.outOfBounds index line text target size)) ∧
      (∀ registers reason steps place,
        run.result ≠ .ok ⟨registers, .halted reason, steps, place⟩) ∧
      run.lines = ["line 3: r0- -> 0, 0 was 8", "line 3: r0- -> 0, 0 was 8"] ∧
      other.run .unlimited ⟨5, false⟩ [7] = run := by
  intro program other run
  have nonempty : program ≠ [] := List.cons_ne_nil _ _
  have reached {place : Nat} (reaches : program.Reaches place) : place ∈ [0, 2] :=
    reaches.mem_of_closed (by decide) (by decide)
  have confined : program.Confined := by
    intro place body reaches found
    rcases List.mem_pair.mp (reached reaches) with rfl | rfl
    · cases found
      decide
    · cases found
      decide
  have endless : program.Endless := by
    intro place body reason reaches found halts
    rcases List.mem_pair.mp (reached reaches) with rfl | rfl
    · cases found
      cases halts
    · cases found
      cases halts
  have same : program.SameWhereReached other := by
    refine ⟨rfl, fun place reaches => ?_⟩
    rcases List.mem_pair.mp (reached reaches) with rfl | rfl
    · rfl
    · rfl
  obtain ⟨-, inside, unhalted, exchanged⟩ :=
    run_within_reach .unlimited nonempty ⟨5, false⟩ [7]
  exact ⟨nonempty, confined, endless, same, inside confined, unhalted endless, rfl,
    exchanged other same⟩

end CounterMachine
