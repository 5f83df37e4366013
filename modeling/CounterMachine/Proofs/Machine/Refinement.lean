import CounterMachine.Proofs.Machine.Budget
import CounterMachine.Proofs.Machine.Semantics
import CounterMachine.Proofs.Numbering.Operations

/-!
Contract: a machine follows the meaning of its program.

Owns: the configuration that a snapshot stands for; that each step of the meaning is a step of
the machine, and each end of the meaning an end of its run; and what a run reports, depending on
whether the first end comes up within the budget.

Does not own: what is traced, and runs under a limit on numerals.

## How the two are related

A register file stands for the values of its recorded registers; the order in which they were
recorded is the only thing forgotten. The meaning knows no budget, so steps and budget are
compared in the last theorem and nowhere else.
-/

set_option autoImplicit false

namespace CounterMachine

open Text

/-! ## Registers -/

namespace RegisterFile

/-- The values of the recorded registers. -/
def store (registers : RegisterFile) : Store :=
  registers.table.get?

@[simp]
theorem value_store (registers : RegisterFile) : registers.store.value = registers.value :=
  rfl

@[simp]
theorem store_write (registers : RegisterFile) (register : String) (value : Int) :
    (registers.write register value).store = registers.store.record register value := by
  funext name
  rw [Store.record, Function.update_apply]
  exact registers.table.get?_insert register name value

/-- Recording a register that is recorded already changes nothing, and any other holds zero. -/
@[simp]
theorem store_touch (registers : RegisterFile) (register : String) :
    (registers.touch register).store =
      registers.store.record register (registers.value register) := by
  unfold touch
  split
  · next recorded =>
    obtain ⟨value, found⟩ := Table.has_iff.mp recorded
    have same : registers.store register = some (registers.value register) := by
      rw [RegisterFile.value, store, found]
      rfl
    rw [Store.record, ← same, Function.update_eq_self]
  · next absent =>
    have zero : registers.value register = 0 := by
      cases found : registers.table.get? register with
      | none => rw [RegisterFile.value, found]; rfl
      | some value => exact absurd (Table.has_iff.mpr ⟨value, found⟩) absent
    rw [store_write, zero]

/-- No register below the first index is seeded. -/
private theorem seededFrom_of_lt {index first : Nat} (below : index < first)
    (arguments : List Int) :
    Store.seededFrom first arguments (numberedRegister index) = none := by
  induction arguments generalizing first with
  | nil => rfl
  | cons value later inductionHypothesis =>
      have different : numberedRegister index ≠ numberedRegister first := by
        intro same
        exact Nat.ne_of_lt below (numberedRegister_inj.mp same)
      rw [Store.seededFrom, Store.record, Function.update_of_ne different]
      exact inductionHypothesis (Nat.lt_succ_of_lt below)

private theorem seedFrom_eq_ok (limit : DigitLimit) {arguments : List Int}
    (natural : ∀ value ∈ arguments, 0 ≤ value) (index : Nat) (registers : RegisterFile) :
    ∃ seeded, seedFrom limit index registers arguments = .ok seeded ∧
      ∀ name, seeded.store name =
        (Store.seededFrom index arguments name).or (registers.store name) := by
  induction arguments generalizing index registers with
  | nil => exact ⟨registers, rfl, fun name => rfl⟩
  | cons value later inductionHypothesis =>
      have notNegative : ¬ value < 0 := Int.not_lt.mpr (natural value List.mem_cons_self)
      obtain ⟨seeded, done, stored⟩ := inductionHypothesis
        (fun other member => natural other (List.mem_cons_of_mem value member)) (index + 1)
        (registers.write (numberedRegister index) value)
      refine ⟨seeded, ?_, ?_⟩
      · rw [seedFrom, if_neg notNegative]
        exact done
      · intro name
        rw [stored, store_write, Store.seededFrom, Store.record, Store.record]
        by_cases here : name = numberedRegister index
        · rw [here, seededFrom_of_lt (Nat.lt_succ_self index), Function.update_self,
            Function.update_self, Option.none_or, Option.some_or]
        · rw [Function.update_of_ne here, Function.update_of_ne here]

/-- Natural arguments are accepted, and recorded in the numbered registers. -/
theorem ofArguments_eq_ok (limit : DigitLimit) {arguments : List Int}
    (natural : ∀ value ∈ arguments, 0 ≤ value) :
    ∃ registers, ofArguments limit arguments = .ok registers ∧
      registers.store = Store.seededFrom 0 arguments := by
  obtain ⟨seeded, done, stored⟩ := seedFrom_eq_ok limit natural 0 empty
  refine ⟨seeded, done, ?_⟩
  funext name
  rw [stored]
  exact Option.or_none

end RegisterFile

/-- What an operation does to the values of registers it does to a register file. -/
theorem Operation.Performs.effect_eq {operation : Operation Int} {index : Nat}
    {registers : RegisterFile} {target : Int} {store : Store}
    (performs : operation.Performs index registers.store target store) :
    ∃ changed computed,
      operation.effect .unlimited index registers = .ok (.jump target changed computed) ∧
        changed.store = store := by
  cases performs with
  | init register value =>
      exact ⟨_, [], rfl, RegisterFile.store_write registers register value⟩
  | inc register next => exact ⟨_, [], rfl, RegisterFile.store_write registers register _⟩
  | decPositive register onPositive onZero positive =>
      exact ⟨_, [], if_pos positive, RegisterFile.store_write registers register _⟩
  | decZero register onPositive onZero notPositive =>
      exact ⟨_, [], if_neg (Int.not_lt.mpr notPositive),
        RegisterFile.store_touch registers register⟩
  | @eval description register code value evaluated =>
      rw [RegisterFile.value_store] at evaluated
      refine ⟨_, [.evaluated code value], ?_, RegisterFile.store_write registers register value⟩
      simp only [effect, evaluated]

/-! ## Steps -/

/-- The configuration that a snapshot stands for. -/
def Snapshot.configuration (snapshot : Snapshot) : Configuration :=
  ⟨snapshot.place, snapshot.registers.store⟩

section Steps

variable {program : Program} {snapshot : Snapshot} (settings : Settings)

/-- The machine that runs a program without a limit on numerals. -/
def Program.machine (program : Program) (settings : Settings) : Machine :=
  ⟨program.tokens, settings, .unlimited⟩

/-- Without a limit on numerals, the line of an instruction can always be made. -/
theorem Program.traceEvents_machine (program : Program) (body : Instruction Int)
    (registers : RegisterFile) :
    (program.machine settings).traceEvents body registers =
      .ok (if settings.traceAll || body.trace then [.traced (body.traceText registers)]
        else []) := by
  unfold Machine.traceEvents Instruction.traceLine machine
  rw [checkNumerals_unlimited]
  split
  · rfl
  · rfl

theorem exists_traceEvents (body : Instruction Int) (registers : RegisterFile) :
    ∃ events, (program.machine settings).traceEvents body registers = .ok events :=
  ⟨_, program.traceEvents_machine settings body registers⟩

/-- Each step of the meaning is one of the machine. -/
theorem Configuration.Step.exists_onward {next : Configuration}
    (moved : snapshot.configuration.Step program next) :
    ∃ later, (program.machine settings).step snapshot = .onward later ∧
      later.configuration = next := by
  obtain ⟨found, performs, inside⟩ := moved
  obtain ⟨changed, computed, effect, stored⟩ := performs.effect_eq
  obtain ⟨traced, tracing⟩ := exists_traceEvents settings _ snapshot.registers
  have cell := Program.tokens_getElem?_eq_some_iff.mpr found
  refine ⟨_, Machine.step_eq_iff.mpr (.jump cell tracing effect ?_), ?_⟩
  · rw [Program.machine, Program.length_tokens]
    exact ⟨Int.natCast_nonneg _, Int.ofNat_lt.mpr inside⟩
  · rw [Snapshot.configuration, stored]
    rfl

/-- By induction on the steps, the machine taking one for each. -/
theorem Configuration.Path.exists_onward {count : Nat} {first last : Configuration}
    (path : Path program count first last) (represents : snapshot.configuration = first) :
    ∃ later, (program.machine settings).Onward count snapshot later ∧
      later.configuration = last := by
  induction path generalizing snapshot with
  | refl configuration => exact ⟨snapshot, .refl snapshot, represents⟩
  | step moved later inductionHypothesis =>
      rw [← represents] at moved
      obtain ⟨middle, step, middleRepresents⟩ := moved.exists_onward settings
      obtain ⟨last, onward, lastRepresents⟩ := inductionHypothesis middleRepresents
      exact ⟨last, .step step onward, lastRepresents⟩

theorem Configuration.Halts.exists_ended {body : Instruction Int} {reason : String}
    (halts : snapshot.configuration.Halts program body reason) :
    ∃ events, (program.machine settings).step snapshot =
      .ended events
        (.ok ⟨snapshot.registers, .halted reason, snapshot.steps + 1, snapshot.place⟩) := by
  obtain ⟨traced, tracing⟩ := exists_traceEvents settings body snapshot.registers
  have cell := Program.tokens_getElem?_eq_some_iff.mpr halts.found
  refine ⟨_, Machine.step_eq_iff.mpr (.halt cell tracing ?_)⟩
  rw [halts.operation]
  rfl

theorem Configuration.Fails.exists_ended {body : Instruction Int} {failure : EvalFailure}
    (fails : snapshot.configuration.Fails program body failure) :
    ∃ events, (program.machine settings).step snapshot =
      .ended events (.error (.evalFailed snapshot.place body.line body.text failure)) := by
  obtain ⟨traced, tracing⟩ := exists_traceEvents settings body snapshot.registers
  obtain ⟨register, operation⟩ := fails.operation
  have noValue : Expression.evaluate .unlimited snapshot.registers.value failure.code =
      .error failure.cause := fails.noValue
  have cell := Program.tokens_getElem?_eq_some_iff.mpr fails.found
  refine ⟨_, Machine.step_eq_iff.mpr (.fail cell tracing ?_)⟩
  rw [operation]
  simp only [Operation.effect, Program.machine, noValue]

theorem Configuration.Leaves.exists_ended {body : Instruction Int} {target : Int}
    (leaves : snapshot.configuration.Leaves program body target) :
    ∃ events, (program.machine settings).step snapshot =
      .ended events
        (.error (.outOfBounds snapshot.place body.line body.text target program.length)) := by
  obtain ⟨registers, performs⟩ := leaves.performs
  obtain ⟨changed, computed, effect, stored⟩ := performs.effect_eq
  obtain ⟨traced, tracing⟩ := exists_traceEvents settings body snapshot.registers
  have cell := Program.tokens_getElem?_eq_some_iff.mpr leaves.found
  have outside := leaves.outside
  rw [← program.length_tokens] at outside ⊢
  exact ⟨_, Machine.step_eq_iff.mpr
    (.leave cell tracing effect outside (checkNumerals_unlimited _))⟩

/-- Each end of the meaning is an end of the machine. -/
theorem Configuration.Ends.exists_ended (ends : snapshot.configuration.Ends program) :
    ∃ events result, (program.machine settings).step snapshot = .ended events result := by
  cases ends with
  | halts halts =>
      obtain ⟨events, ended⟩ := halts.exists_ended settings
      exact ⟨events, _, ended⟩
  | fails fails =>
      obtain ⟨events, ended⟩ := fails.exists_ended settings
      exact ⟨events, _, ended⟩
  | leaves leaves =>
      obtain ⟨events, ended⟩ := leaves.exists_ended settings
      exact ⟨events, _, ended⟩

end Steps

/-! ## Runs -/

/-- The diagnostic of a failed run has the code, and names the instruction at a place with its
line and its text. -/
def RunError.Blames (error : RunError) (code : ErrorCode) (place : Nat)
    (body : Instruction Int) : Prop :=
  ∃ diagnostic cause, error.failure = .diagnostic diagnostic ∧ diagnostic.code = code ∧
    diagnostic.span.line = body.line ∧
    diagnostic.detail = .runtime (some place) body.text cause

/-- A run on natural arguments begins where the meaning of its program does. -/
theorem Program.exists_run_eq (program : Program) {arguments : List Int} {budget : Nat}
    (traceAll : Bool) (natural : ∀ value ∈ arguments, 0 ≤ value) (positive : 1 ≤ budget) :
    ∃ registers, Snapshot.configuration ⟨0, 0, registers, []⟩ = .start arguments ∧
      program.run .unlimited ⟨budget, traceAll⟩ arguments =
        (program.machine ⟨budget, traceAll⟩).advance budget ⟨0, 0, registers, []⟩ := by
  obtain ⟨registers, accepted, stored⟩ := RegisterFile.ofArguments_eq_ok .unlimited natural
  refine ⟨registers, ?_, ?_⟩
  · rw [Snapshot.configuration, stored]
    rfl
  · rw [program.run_eq .unlimited traceAll arguments positive budget, accepted]
    rfl

/-- A run takes the steps of a path that is no longer than its budget. It then either ends with
the next step, or has used up the budget. -/
private theorem run_along_path {program : Program} {arguments : List Int} {budget count : Nat}
    (traceAll : Bool) (natural : ∀ value ∈ arguments, 0 ≤ value) (positive : 1 ≤ budget)
    {last : Configuration} (path : Configuration.Path program count (.start arguments) last) :
    ∃ later : Snapshot, later.configuration = last ∧ later.steps = count ∧
      (∀ events result, count < budget →
        (program.machine ⟨budget, traceAll⟩).step later = .ended events result →
          (program.run .unlimited ⟨budget, traceAll⟩ arguments).result = result) ∧
      (count = budget → (program.run .unlimited ⟨budget, traceAll⟩ arguments).result =
        .ok ⟨later.registers, .budgetExceeded, budget, later.place⟩) := by
  obtain ⟨registers, represents, runEq⟩ := program.exists_run_eq traceAll natural positive
  obtain ⟨later, onward, laterRepresents⟩ := path.exists_onward ⟨budget, traceAll⟩ represents
  have steps : later.steps = count := by rw [onward.steps, Nat.zero_add]
  refine ⟨later, laterRepresents, steps, ?_, ?_⟩
  · intro events result below ended
    rw [runEq, onward.advance_of_ended ended below]
  · rintro rfl
    rw [runEq, onward.advance_eq, steps]

/-- A run takes the steps that its program means. It reports the end of the program if one comes
up within the budget, and otherwise where the budget has left it. -/
theorem run_follows_steps {program : Program} {arguments : List Int} {budget : Nat}
    (traceAll : Bool) (nonempty : program ≠ []) (natural : ∀ value ∈ arguments, 0 ≤ value)
    (positive : 1 ≤ budget) :
    let result := (program.run .unlimited ⟨budget, traceAll⟩ arguments).result
    let start := Configuration.start arguments
    (∀ count last body, count < budget → Configuration.Path program count start last →
      (∀ reason, last.Halts program body reason →
        ∃ registers, registers.store = last.registers ∧
          result = .ok ⟨registers, .halted reason, count + 1, last.place⟩) ∧
      (∀ failure, last.Fails program body failure →
        ∃ error, error.Blames .evalFailed last.place body ∧ result = .error error) ∧
      (∀ target, last.Leaves program body target →
        ∃ error, error.Blames .outOfBounds last.place body ∧ result = .error error)) ∧
    ((∀ count last, count < budget → Configuration.Path program count start last →
        ¬ last.Ends program) →
      ∃ last registers, Configuration.Path program budget start last ∧
        registers.store = last.registers ∧
        result = .ok ⟨registers, .budgetExceeded, budget, last.place⟩) := by
  intro result start
  refine ⟨?_, ?_⟩
  · intro count last body below path
    obtain ⟨later, rfl, steps, ends, -⟩ := run_along_path traceAll natural positive path
    refine ⟨?_, ?_, ?_⟩
    · intro reason halts
      obtain ⟨events, ended⟩ := halts.exists_ended ⟨budget, traceAll⟩
      rw [steps] at ended
      exact ⟨later.registers, rfl, ends events _ below ended⟩
    · intro failure fails
      obtain ⟨events, ended⟩ := fails.exists_ended ⟨budget, traceAll⟩
      exact ⟨_, ⟨_, _, rfl, rfl, rfl, rfl⟩, ends events _ below ended⟩
    · intro target leaves
      obtain ⟨events, ended⟩ := leaves.exists_ended ⟨budget, traceAll⟩
      exact ⟨_, ⟨_, _, rfl, rfl, rfl, rfl⟩, ends events _ below ended⟩
  · intro endless
    have inside : start.place < program.length := List.length_pos_iff.mpr nonempty
    obtain ⟨last, path⟩ := Configuration.exists_path inside endless
    obtain ⟨later, rfl, -, -, exceeded⟩ := run_along_path traceAll natural positive path
    exact ⟨_, later.registers, path, rfl, exceeded rfl⟩

/-- A countdown from one halts with its third step, the last one that the budget allows. -/
theorem run_follows_steps_countdown :
    countdown ≠ [] ∧ (∀ value ∈ [(1 : Int)], 0 ≤ value) ∧ 1 ≤ 3 ∧
      ∃ registers : RegisterFile, registers.store "r0" = some 0 ∧
        (countdown.run .unlimited ⟨(3 : Nat), false⟩ [1]).result =
          .ok ⟨registers, .halted "done", 3, 1⟩ := by
  have nonempty : countdown ≠ [] := List.cons_ne_nil _ _
  have natural : ∀ value ∈ [(1 : Int)], 0 ≤ value := by decide
  have decremented : (Configuration.start [1]).Step countdown ⟨0, _⟩ :=
    .performed rfl (.decPositive "r0" 0 1 (by decide)) (by decide)
  have exhausted : Configuration.Step countdown ⟨0, (Store.seededFrom 0 [1]).record "r0" 0⟩
      ⟨1, _⟩ := .performed rfl (.decZero "r0" 0 1 (by decide)) (by decide)
  have path := Configuration.Path.step decremented (.step exhausted (.refl _))
  have positive : 1 ≤ 3 := by decide
  obtain ⟨ends, -⟩ := run_follows_steps false nonempty natural positive
  obtain ⟨halts, -, -⟩ := ends 2 _ ⟨.halt "done", "halt \"done\"", 2, false, none⟩ (by decide) path
  obtain ⟨registers, stored, halted⟩ := halts "done" ⟨rfl, rfl⟩
  exact ⟨nonempty, natural, positive, registers, by rw [stored]; rfl, halted⟩

end CounterMachine
