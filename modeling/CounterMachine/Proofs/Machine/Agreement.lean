import CounterMachine.Proofs.Machine.Budget
import CounterMachine.Proofs.Machine.Lockstep
import CounterMachine.Proofs.Machine.Refinement
import CounterMachine.Proofs.Machine.Simulation
import CounterMachine.Proofs.Numbering.Programs
import CounterMachine.Proofs.Numbering.Refusals

/-!
Contract: programs that agree do the same thing.

Owns: that agreeing programs run to the same end under every budget, have the same number or
none, and may go to the same places from every instruction, without a limit on digits.

Does not own: the converse. Programs may do the same thing without agreeing.
-/

set_option autoImplicit false

namespace CounterMachine

open Text

/-! ## Runs -/

/-- The error is reported with a code and, where there is one, with the index of the instruction
at fault. -/
def RunError.Reports (error : RunError) (code : ErrorCode) (index : Option Int) : Prop :=
  ∃ diagnostic text cause, error.failure = .diagnostic diagnostic ∧ diagnostic.code = code ∧
    diagnostic.detail = .runtime index text cause

/-- Both runs return, with the same registers, kind of outcome, steps and place, or both fail,
with the same code at the same instruction. -/
inductive SameEnd : Except RunError RunResult → Except RunError RunResult → Prop where
  | halted {registers : RegisterFile} {reason otherReason : String} {steps place : Nat} :
      SameEnd (.ok ⟨registers, .halted reason, steps, place⟩)
        (.ok ⟨registers, .halted otherReason, steps, place⟩)
  | budgetExceeded {registers : RegisterFile} {steps place : Nat} :
      SameEnd (.ok ⟨registers, .budgetExceeded, steps, place⟩)
        (.ok ⟨registers, .budgetExceeded, steps, place⟩)
  | failed {error other : RunError} {code : ErrorCode} {index : Option Int}
      (reports : error.Reports code index) (otherReports : other.Reports code index) :
      SameEnd (.error error) (.error other)

/-- Instructions at one place agree, or both programs have come to their end. -/
theorem Program.getElem?_agrees {left right : Program} (agrees : left.agrees right = true)
    (place : Nat) :
    (left[place]? = none ∧ right[place]? = none) ∨
      ∃ body other, left[place]? = some body ∧ right[place]? = some other ∧
        body.operation.action = other.operation.action := by
  obtain ⟨length, same⟩ := Program.agrees_iff.mp agrees
  by_cases inside : place < left.length
  · have otherInside : place < right.length := length ▸ inside
    exact .inr ⟨_, _, List.getElem?_eq_getElem inside, List.getElem?_eq_getElem otherInside,
      same place inside otherInside⟩
  · have outside : left.length ≤ place := Nat.le_of_not_lt inside
    exact .inl ⟨List.getElem?_eq_none outside, List.getElem?_eq_none (length ▸ outside)⟩

section Runs

variable {left right : Program} (settings otherSettings : Settings)

/-- Machines of agreeing programs keep in step, whatever they trace. -/
theorem Program.inStep_of_agrees (agrees : left.agrees right = true) :
    Machine.InStep Snapshot.Alike (fun run other => SameEnd run.result other.result)
      (left.machine settings) (right.machine otherSettings) where
  step := by
    intro snapshot other alike
    have leftStep := (left.machine settings).step_of_cells rfl snapshot
    have rightStep := (right.machine otherSettings).step_of_cells rfl other
    rw [← alike.place] at rightStep
    rcases Program.getElem?_agrees agrees snapshot.place with
      ⟨absent, otherAbsent⟩ | ⟨body, otherBody, found, otherFound, action⟩
    · rw [leftStep, rightStep, absent, otherAbsent]
      exact .ended (.failed ⟨_, _, _, rfl, rfl, rfl⟩ ⟨_, _, _, rfl, rfl, rfl⟩)
    · have size : (left.machine settings).cells.length =
          (right.machine otherSettings).cells.length := by
        rw [Program.machine, Program.machine, Program.length_tokens, Program.length_tokens]
        exact (Program.agrees_iff.mp agrees).1
      obtain ⟨traced, tracing⟩ := exists_traceEvents settings body snapshot.registers
      obtain ⟨otherTraced, otherTracing⟩ :=
        exists_traceEvents otherSettings otherBody other.registers
      have same := Machine.execute_same (left.machine settings) (right.machine otherSettings) rfl
        size alike action tracing otherTracing
      rw [found] at leftStep
      rw [otherFound] at rightStep
      simp only at leftStep rightStep
      rw [← leftStep, ← rightStep] at same
      generalize (left.machine settings).step snapshot = move at same ⊢
      generalize (right.machine otherSettings).step other = otherMove at same ⊢
      cases same with
      | onward alike => exact .onward alike
      | halt operation otherOperation => exact .ended .halted
      | fail => exact .ended (.failed ⟨_, _, _, rfl, rfl, rfl⟩ ⟨_, _, _, rfl, rfl, rfl⟩)
      | leave => exact .ended (.failed ⟨_, _, _, rfl, rfl, rfl⟩ ⟨_, _, _, rfl, rfl, rfl⟩)
      | leaveUnwritten unwritten => cases unwritten
  exhausted := by
    rintro ⟨place, steps, registers, _⟩ ⟨_, _, _, _⟩ ⟨rfl, rfl, rfl⟩
    exact .budgetExceeded

end Runs

theorem Program.run_eq_of_budget_not_positive (limit : DigitLimit) (program : Program)
    (arguments : List Int) (traceAll : Bool) {maxSteps : Int} (noBudget : maxSteps ≤ 0) :
    program.run limit ⟨maxSteps, traceAll⟩ arguments =
      ⟨[], .error (.violation .budgetNotPositive)⟩ := by
  have refused : Settings.check ⟨maxSteps, traceAll⟩ = .error .budgetNotPositive := by
    simp only [Settings.check, Settings.problems, if_pos noBudget]
  simp only [Program.run, Machine.run, refused]

/-- Whatever was traced, agreeing programs come to the same end on natural arguments. -/
private theorem run_alike {left right : Program} (agrees : left.agrees right = true)
    {arguments : List Int} (natural : ∀ value ∈ arguments, 0 ≤ value) {maxSteps : Int}
    (positive : 0 < maxSteps) (traceAll otherTraceAll : Bool) :
    SameEnd (left.run .unlimited ⟨maxSteps, traceAll⟩ arguments).result
      (right.run .unlimited ⟨maxSteps, otherTraceAll⟩ arguments).result := by
  obtain ⟨budget, rfl⟩ := Int.eq_ofNat_of_zero_le (Int.le_of_lt positive)
  have budgetPositive : 1 ≤ budget := Int.ofNat_lt.mp positive
  obtain ⟨registers, accepted, -⟩ := RegisterFile.ofArguments_eq_ok .unlimited natural
  rw [left.run_eq .unlimited traceAll arguments budgetPositive budget,
    right.run_eq .unlimited otherTraceAll arguments budgetPositive budget, accepted]
  exact (Program.inStep_of_agrees ⟨budget, traceAll⟩ ⟨budget, otherTraceAll⟩ agrees).advance budget
    ⟨rfl, rfl, rfl⟩

/-! ## Numbers -/

private theorem Operation.NumberedAs.of_action_eq {left right : Operation Int}
    {numbered : NumberedOperation} (numberedAs : left.NumberedAs numbered)
    (same : left.action = right.action) : right.NumberedAs numbered := by
  rcases Operation.eq_or_halts_of_action_eq same with rfl | ⟨reason, otherReason, rfl, rfl⟩
  · exact numberedAs
  · cases numberedAs
    exact .halt otherReason

/-- Place by place, as both programs have one length. -/
private theorem Program.NumberedAs.of_agrees {left right : Program}
    {numbereds : List NumberedOperation} (numberedAs : left.NumberedAs numbereds)
    (agrees : left.agrees right = true) : right.NumberedAs numbereds := by
  have actions := Program.agrees_iff_forall₂.mp agrees
  induction actions generalizing numbereds with
  | nil => exact numberedAs
  | cons action later inductionHypothesis =>
      cases numberedAs with
      | cons first rest =>
          exact .cons (first.of_action_eq action)
            (inductionHypothesis rest (Program.agrees_iff_forall₂.mpr later))

theorem Program.agrees_symm {left right : Program} (agrees : left.agrees right = true) :
    right.agrees left = true := by
  rw [Program.agrees_iff_forall₂] at agrees ⊢
  exact agrees.flip.imp fun _ _ => Eq.symm

private theorem encode_eq_ok_of_agrees {left right : Program} (agrees : left.agrees right = true)
    {number : Nat} (encoded : left.encode .unlimited = .ok number) :
    right.encode .unlimited = .ok number := by
  obtain ⟨numbereds, numberedAs, same⟩ := Program.encode_eq_ok_iff.mp encoded
  exact Program.encode_eq_ok_iff.mpr ⟨numbereds, numberedAs.of_agrees agrees, same⟩

private theorem encode_alike {left right : Program} (agrees : left.agrees right = true) :
    (∃ number, left.encode .unlimited = .ok number ∧ right.encode .unlimited = .ok number) ∨
      ∃ error otherError, left.encode .unlimited = .error error ∧ error.Reported ∧
        right.encode .unlimited = .error otherError ∧ otherError.Reported := by
  have showable (program : Program) :
      ∀ body ∈ program, body.operation.Showable .unlimited := fun _ _ _ _ _ => rfl
  cases encoded : left.encode .unlimited with
  | ok number => exact .inl ⟨number, rfl, encode_eq_ok_of_agrees agrees encoded⟩
  | error error =>
      cases otherEncoded : right.encode .unlimited with
      | ok number =>
          have impossible := encode_eq_ok_of_agrees (Program.agrees_symm agrees) otherEncoded
          cases encoded.symm.trans impossible
      | error otherError =>
          exact .inr ⟨error, otherError, rfl, Program.encode_reported (showable left) encoded,
            rfl, Program.encode_reported (showable right) otherEncoded⟩

/-! ## Everything that a program does -/

/-- Programs that agree cannot be told apart by running them, by their numbers or by the places
that their instructions go to. Reasons, texts, lines, labels and trace flags of their
instructions may differ, and so may what is traced. -/
theorem alike_of_agrees {left right : Program} (agrees : left.agrees right = true) :
    (∀ (arguments : List Int) (maxSteps : Int) (traceAll otherTraceAll : Bool),
      (∀ value ∈ arguments, 0 ≤ value) →
        let result := (left.run .unlimited ⟨maxSteps, traceAll⟩ arguments).result
        let otherResult := (right.run .unlimited ⟨maxSteps, otherTraceAll⟩ arguments).result
        (0 < maxSteps → SameEnd result otherResult) ∧
          (maxSteps ≤ 0 → result = .error (.violation .budgetNotPositive) ∧
            otherResult = .error (.violation .budgetNotPositive))) ∧
    ((∃ number, left.encode .unlimited = .ok number ∧ right.encode .unlimited = .ok number) ∨
      ∃ error otherError, left.encode .unlimited = .error error ∧ error.Reported ∧
        right.encode .unlimited = .error otherError ∧ otherError.Reported) ∧
    (∀ (index : Nat) (inLeft : index < left.length) (inRight : index < right.length)
      (following : Int),
        left[index].operation.jumpTargets following =
          right[index].operation.jumpTargets following) := by
  refine ⟨?_, encode_alike agrees, ?_⟩
  · intro arguments maxSteps traceAll otherTraceAll natural result otherResult
    refine ⟨fun positive => run_alike agrees natural positive traceAll otherTraceAll, ?_⟩
    intro noBudget
    exact ⟨congrArg Run.result (left.run_eq_of_budget_not_positive .unlimited arguments _ noBudget),
      congrArg Run.result (right.run_eq_of_budget_not_positive .unlimited arguments _ noBudget)⟩
  · intro index inLeft inRight following
    have action := (Program.agrees_iff.mp agrees).2 index inLeft inRight
    rcases Operation.eq_or_halts_of_action_eq action with
      same | ⟨reason, otherReason, halts, otherHalts⟩
    · rw [same]
    · rw [halts, otherHalts]
      rfl

/-- A countdown against one that is labelled, traced and halts for another reason. -/
theorem alike_of_agrees_countdown :
    let labelled : Program :=
      [⟨.dec "r0" 0 1, "R0-", 7, true, some "loop"⟩, ⟨.halt "zero", "", 0, false, none⟩]
    countdown.agrees labelled = true ∧
      SameEnd (countdown.run .unlimited ⟨9, false⟩ [2]).result
        (labelled.run .unlimited ⟨9, true⟩ [2]).result := by
  intro labelled
  have agrees : countdown.agrees labelled = true := rfl
  obtain ⟨runs, -⟩ := alike_of_agrees agrees
  exact ⟨agrees, (runs [2] 9 false true (by decide)).1 (by decide)⟩

end CounterMachine
