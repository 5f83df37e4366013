import CounterMachine.Proofs.Machine.Running

/-!
Contract: what more budget changes about a run.

Owns: that a run neither depends on what was seen before it nor on the budget it was meant to
have, and hence that a budget only cuts a run short: what is seen under a smaller budget comes
first under a larger one, and what follows is a run of its own from the place and the
registers where the smaller budget was used up.

Does not own: how far a program gets.
-/

set_option autoImplicit false

namespace CounterMachine

open Text

/-! ## What was seen before -/

/-- The snapshot with earlier events behind its own. -/
def Snapshot.after (snapshot : Snapshot) (earlier : List Event) : Snapshot :=
  { snapshot with events := snapshot.events ++ earlier }

def Move.after : Move → List Event → Move
  | .onward next, earlier => .onward (next.after earlier)
  | .ended events result, earlier => .ended (events ++ earlier) result

namespace Machine

variable {machine : Machine}

private theorem Makes.after {snapshot : Snapshot} {move : Move}
    (makes : machine.Makes snapshot move) (earlier : List Event) :
    machine.Makes (snapshot.after earlier) (move.after earlier) := by
  cases makes with
  | jump found tracing effect inside =>
      simp only [Move.after, Snapshot.after, List.append_assoc]
      exact .jump found tracing effect inside
  | leave found tracing effect outside written =>
      simp only [Move.after, List.append_assoc]
      exact .leave found tracing effect outside written
  | leaveUnwritten found tracing effect outside unwritten =>
      simp only [Move.after, List.append_assoc]
      exact .leaveUnwritten found tracing effect outside unwritten
  | halt found tracing effect =>
      simp only [Move.after, List.append_assoc]
      exact .halt found tracing effect
  | fail found tracing effect =>
      simp only [Move.after, List.append_assoc]
      exact .fail found tracing effect
  | untraceable found tracing => exact .untraceable found tracing
  | noInstruction found refused => exact .noInstruction found refused
  | nothing absent => exact .nothing absent

theorem step_after (snapshot : Snapshot) (earlier : List Event) :
    machine.step (snapshot.after earlier) = (machine.step snapshot).after earlier :=
  step_eq_iff.mpr ((makes_step machine snapshot).after earlier)

/-- Earlier events stand before those of a run and change nothing else. -/
theorem advance_after (budget : Nat) (snapshot : Snapshot) (earlier : List Event) :
    machine.advance budget (snapshot.after earlier) =
      ⟨earlier.reverse ++ (machine.advance budget snapshot).events,
        (machine.advance budget snapshot).result⟩ := by
  induction budget generalizing snapshot with
  | zero =>
      simp only [advance, Snapshot.after, List.reverse_append]
  | succ budget inductionHypothesis =>
      rw [advance, advance, step_after]
      cases machine.step snapshot with
      | onward next => exact inductionHypothesis next
      | ended events result => simp only [Move.after, List.reverse_append]

/-- A machine that went on goes on as if it had been started where it is. -/
theorem Onward.advance_continues {count : Nat} {first last : Snapshot}
    (onward : machine.Onward count first last) (budget : Nat) :
    machine.advance (count + budget) first =
      ⟨(machine.advance count first).events ++
          (machine.advance budget ⟨last.place, last.steps, last.registers, []⟩).events,
        (machine.advance budget ⟨last.place, last.steps, last.registers, []⟩).result⟩ := by
  rw [onward.advance_add, onward.advance_eq]
  exact advance_after budget ⟨last.place, last.steps, last.registers, []⟩ last.events

/-! ## Settings -/

/-- The budget in the settings counts only where a run is started. -/
theorem advance_maxSteps (cells : List (Token Int)) (limit : DigitLimit) (traceAll : Bool)
    (maxSteps other : Int) (budget : Nat) (snapshot : Snapshot) :
    advance ⟨cells, ⟨maxSteps, traceAll⟩, limit⟩ budget snapshot =
      advance ⟨cells, ⟨other, traceAll⟩, limit⟩ budget snapshot := by
  induction budget generalizing snapshot with
  | zero => rfl
  | succ budget inductionHypothesis =>
      have sameStep : step ⟨cells, ⟨maxSteps, traceAll⟩, limit⟩ snapshot =
          step ⟨cells, ⟨other, traceAll⟩, limit⟩ snapshot := rfl
      rw [advance, advance, sameStep]
      cases step ⟨cells, ⟨other, traceAll⟩, limit⟩ snapshot with
      | onward next => exact inductionHypothesis next
      | ended events result => rfl

end Machine

/-- A run with a budget starts at the first instruction with the arguments in the numbered
registers. -/
theorem Program.run_eq (limit : DigitLimit) (traceAll : Bool) (program : Program)
    (arguments : List Int) {budget : Nat} (positive : 1 ≤ budget) (maxSteps : Int) :
    program.run limit ⟨budget, traceAll⟩ arguments =
      match RegisterFile.ofArguments limit arguments with
      | .error cause => ⟨[], .error (.violation cause)⟩
      | .ok registers =>
          Machine.advance ⟨program.tokens, ⟨maxSteps, traceAll⟩, limit⟩ budget
            ⟨0, 0, registers, []⟩ := by
  have accepted : Settings.check ⟨budget, traceAll⟩ = .ok () :=
    Settings.check_eq_ok (Int.ofNat_lt.mpr positive)
  simp only [Program.run, Machine.run, accepted, Int.toNat_natCast]
  cases RegisterFile.ofArguments limit arguments with
  | error cause => rfl
  | ok registers => exact Machine.advance_maxSteps program.tokens limit traceAll _ _ budget _

/-! ## More budget -/

/-- Either a run ends within the smaller budget and nothing changes, or it uses the budget up
and the rest of the larger one is spent on going on from there. -/
private theorem run_same_or_continues (limit : DigitLimit) (traceAll : Bool) (program : Program)
    (arguments : List Int) {short long : Nat} (positive : 1 ≤ short) (more : short ≤ long) :
    let shortRun := program.run limit ⟨short, traceAll⟩ arguments
    let longRun := program.run limit ⟨long, traceAll⟩ arguments
    (longRun = shortRun ∧ ∀ registers steps place,
        shortRun.result ≠ .ok ⟨registers, .budgetExceeded, steps, place⟩) ∨
      ∃ registers place,
        let rest := Machine.advance ⟨program.tokens, ⟨long, traceAll⟩, limit⟩ (long - short)
          ⟨place, short, registers, []⟩
        shortRun.result = .ok ⟨registers, .budgetExceeded, short, place⟩ ∧
          longRun.result = rest.result ∧ longRun.lines = shortRun.lines ++ rest.lines := by
  intro shortRun longRun
  have shortEq : shortRun = _ := program.run_eq limit traceAll arguments positive long
  have longEq : longRun = _ :=
    program.run_eq limit traceAll arguments (Nat.le_trans positive more) long
  cases started : RegisterFile.ofArguments limit arguments with
  | error cause =>
      refine .inl ⟨by rw [longEq, shortEq, started], fun _ _ _ exceeded => ?_⟩
      rw [shortEq, started] at exceeded
      cases exceeded
  | ok registers =>
      simp only [started] at shortEq longEq
      rcases Machine.onward_or_ended ⟨program.tokens, ⟨long, traceAll⟩, limit⟩ short
          ⟨0, 0, registers, []⟩ with
        ⟨last, onward⟩ | ⟨count, last, events, result, below, onward, ended⟩
      · -- The smaller budget is used up: the larger one is split behind it.
        have steps : last.steps = short := by rw [onward.steps, Nat.zero_add]
        have continues := onward.advance_continues (long - short)
        rw [Nat.add_sub_cancel' more, ← longEq, ← shortEq, steps] at continues
        refine .inr ⟨last.registers, last.place, ?_, by rw [continues], ?_⟩
        · rw [shortEq, onward.advance_eq, steps]
        · rw [continues]
          exact List.filterMap_append
      · -- The run ends within the smaller budget, and not for want of budget.
        have same : longRun = shortRun := by
          rw [longEq, shortEq, onward.advance_of_ended ended below,
            onward.advance_of_ended ended (Nat.lt_of_lt_of_le below more)]
        refine .inl ⟨same, fun _ _ _ exceeded => ?_⟩
        rw [shortEq, onward.advance_of_ended ended below] at exceeded
        simp only at exceeded
        rw [exceeded] at ended
        obtain ⟨reason, halted⟩ := Machine.halted_of_step ended
        cases halted

/-- A run that has an end within a budget has the same end within a larger one; a run that has
none uses up the budget, and the larger one is spent on going on from there. -/
theorem run_extend_budget (limit : DigitLimit) (traceAll : Bool) (program : Program)
    (arguments : List Int) {short long : Nat} (positive : 1 ≤ short) (more : short ≤ long) :
    let shortRun := program.run limit ⟨short, traceAll⟩ arguments
    let longRun := program.run limit ⟨long, traceAll⟩ arguments
    (∀ registers reason steps place,
        shortRun.result = .ok ⟨registers, .halted reason, steps, place⟩ → longRun = shortRun) ∧
      (∀ error, shortRun.result = .error error → longRun = shortRun) ∧
      (∀ registers steps place,
        shortRun.result = .ok ⟨registers, .budgetExceeded, steps, place⟩ →
          let rest := Machine.advance ⟨program.tokens, ⟨long, traceAll⟩, limit⟩ (long - short)
            ⟨place, steps, registers, []⟩
          steps = short ∧ longRun.result = rest.result ∧
            longRun.lines = shortRun.lines ++ rest.lines) ∧
      shortRun.lines <+: longRun.lines := by
  intro shortRun longRun
  rcases run_same_or_continues limit traceAll program arguments positive more with
    ⟨same, ended⟩ | ⟨registers, place, exceeded, result, lines⟩
  · refine ⟨fun _ _ _ _ _ => same, fun _ _ => same, ?_, ?_⟩
    · intro registers steps place exceeded
      exact absurd exceeded (ended registers steps place)
    · exact ⟨[], (List.append_nil _).trans (congrArg Run.lines same.symm)⟩
  · refine ⟨?_, ?_, ?_, ⟨_, lines.symm⟩⟩
    · intro _ _ _ _ halted
      cases exceeded.symm.trans halted
    · intro error failed
      cases exceeded.symm.trans failed
    · intro _ _ _ sameExceeded
      cases exceeded.symm.trans sameExceeded
      exact ⟨rfl, result, lines⟩

/-- Counts the first register down to zero and halts. -/
def countdown : Program :=
  [⟨.dec "r0" 0 1, "r0- -> 0, 1", 1, false, none⟩, ⟨.halt "done", "halt \"done\"", 2, false, none⟩]

/-- Two steps leave a countdown from two at its first instruction; more budget lets it halt. -/
theorem run_extend_budget_countdown :
    1 ≤ 2 ∧ 2 ≤ 9 ∧ ∃ registers, registers.value "r0" = 0 ∧
      (countdown.run .unlimited ⟨(2 : Nat), true⟩ [2]).result =
        .ok ⟨registers, .budgetExceeded, 2, 0⟩ ∧
      (countdown.run .unlimited ⟨(9 : Nat), true⟩ [2]).result =
        (Machine.advance ⟨countdown.tokens, ⟨(9 : Nat), true⟩, .unlimited⟩ (9 - 2)
          ⟨0, 2, registers, []⟩).result ∧
      (countdown.run .unlimited ⟨(9 : Nat), true⟩ [2]).result =
        .ok ⟨registers, .halted "done", 4, 1⟩ := by
  have exceeded : (countdown.run .unlimited ⟨(2 : Nat), true⟩ [2]).result =
      .ok ⟨⟨⟨[("r0", 0)], by decide⟩⟩, .budgetExceeded, 2, 0⟩ := rfl
  have positive : 1 ≤ 2 := by decide
  have more : 2 ≤ 9 := by decide
  obtain ⟨-, -, continued, -⟩ := run_extend_budget .unlimited true countdown [2] positive more
  obtain ⟨-, same, -⟩ := continued _ _ _ exceeded
  exact ⟨positive, more, _, rfl, exceeded, same, rfl⟩

end CounterMachine
