import CounterMachine.Proofs.Machine.Recorded
import CounterMachine.Proofs.Machine.Refinement
import CounterMachine.Proofs.Machine.Simulation

/-!
Contract: a register that is not set counts as one that holds zero.

Owns: register files that have the same values although one of them records more registers; that
operations and steps keep such files apart by no more than these registers; and that zeros behind
the arguments of a run change nothing but which registers are recorded.

Does not own: which registers a run records.
-/

set_option autoImplicit false

namespace CounterMachine

open Text

/-! ## Register files -/

/-- The files have the same values, and the other one may record registers of `added` besides. -/
structure RegisterFile.Extended (added : List String) (registers other : RegisterFile) : Prop where
  value : other.value = registers.value
  kept (name : String) (recorded : registers.has name = true) : other.has name = true
  new (name : String) (recorded : other.has name = true) :
    registers.has name = true ∨ name ∈ added

namespace RegisterFile.Extended

variable {added : List String} {registers other : RegisterFile}

theorem write (extended : registers.Extended added other) (register : String) (value : Int) :
    (registers.write register value).Extended added (other.write register value) where
  value := by
    funext name
    rw [value_write, value_write, extended.value]
  kept name recorded :=
    has_write.mpr ((has_write.mp recorded).imp_right (extended.kept name))
  new name recorded := by
    rw [has_write, or_assoc]
    exact (has_write.mp recorded).imp_right (extended.new name)

theorem touch (extended : registers.Extended added other) (register : String) :
    (registers.touch register).Extended added (other.touch register) where
  value := by
    rw [value_touch, value_touch, extended.value]
  kept name recorded :=
    has_touch.mpr ((has_touch.mp recorded).imp_right (extended.kept name))
  new name recorded := by
    rw [has_touch, or_assoc]
    exact (has_touch.mp recorded).imp_right (extended.new name)

/-- A register that only the other file records holds zero there. -/
theorem value_of_new (extended : registers.Extended added other) {name : String}
    (absent : ¬ registers.has name = true) : other.value name = 0 := by
  rw [extended.value, value_of_not_has absent]

end RegisterFile.Extended

/-! ## Operations -/

/-- Both go to the same place with the same events, or both halt for the same reason. -/
inductive Effect.Extended (added : List String) : Effect → Effect → Prop where
  | jump {target : Int} {registers other : RegisterFile} {events : List Event}
      (extended : registers.Extended added other) :
      Extended added (.jump target registers events) (.jump target other events)
  | halt {reason : String} : Extended added (.halt reason) (.halt reason)

/-- By cases on the operation, which reads no more of a file than the values of its registers. -/
theorem Operation.effect_extended {added : List String} {registers other : RegisterFile}
    (extended : registers.Extended added other) (limit : DigitLimit) (index : Nat)
    (operation : Operation Int) :
    (∃ failure, operation.effect limit index registers = .error failure ∧
      operation.effect limit index other = .error failure) ∨
    ∃ control otherControl, operation.effect limit index registers = .ok control ∧
      operation.effect limit index other = .ok otherControl ∧
      control.Extended added otherControl := by
  cases operation with
  | init register value =>
      exact .inr ⟨_, _, rfl, rfl, .jump (extended.write register value)⟩
  | inc register next =>
      rw [effect, effect, extended.value]
      exact .inr ⟨_, _, rfl, rfl, .jump (extended.write register _)⟩
  | dec register onPositive onZero =>
      rw [effect, effect, extended.value]
      by_cases positive : 0 < registers.value register
      · rw [if_pos positive, if_pos positive]
        exact .inr ⟨_, _, rfl, rfl, .jump (extended.write register _)⟩
      · rw [if_neg positive, if_neg positive]
        exact .inr ⟨_, _, rfl, rfl, .jump (extended.touch register)⟩
  | halt reason => exact .inr ⟨_, _, rfl, rfl, .halt⟩
  | eval description register code =>
      rw [effect, effect, extended.value]
      cases Expression.evaluate limit registers.value code with
      | ok value => exact .inr ⟨_, _, rfl, rfl, .jump (extended.write register value)⟩
      | error cause => exact .inl ⟨_, rfl, rfl⟩

/-! ## Steps -/

/-- The snapshots differ at most in the registers that they record. -/
structure Snapshot.Extended (added : List String) (snapshot other : Snapshot) : Prop where
  place : other.place = snapshot.place
  steps : other.steps = snapshot.steps
  events : other.events = snapshot.events
  registers : snapshot.registers.Extended added other.registers

/-- Both fail in the same way, or both return results that differ at most in the registers that they
record. -/
inductive SameButAdded (added : List String) :
    Except RunError RunResult → Except RunError RunResult → Prop where
  | failed {error : RunError} : SameButAdded added (.error error) (.error error)
  | returned {registers other : RegisterFile} {outcome : Outcome} {steps place : Nat}
      (extended : registers.Extended added other) :
      SameButAdded added (.ok ⟨registers, outcome, steps, place⟩)
        (.ok ⟨other, outcome, steps, place⟩)

/-- The same is seen of both runs, and their results differ at most in the registers that they
record. -/
structure Run.Extended (added : List String) (run other : Run) : Prop where
  events : other.events = run.events
  result : SameButAdded added run.result other.result

/-- Tracing shows values only. -/
theorem Machine.traceEvents_extended {added : List String} {registers other : RegisterFile}
    (extended : registers.Extended added other) (machine : Machine) (body : Instruction Int) :
    machine.traceEvents body other = machine.traceEvents body registers := by
  simp only [traceEvents, Instruction.traceLine, Instruction.tracedNumbers, Instruction.traceText,
    extended.value]

theorem Machine.execute_extended {added : List String} {snapshot other : Snapshot}
    (extended : snapshot.Extended added other) (machine : Machine) (body : Instruction Int) :
    Move.Alike (Snapshot.Extended added) (Run.Extended added)
      (machine.execute snapshot body) (machine.execute other body) := by
  obtain ⟨place, steps, events, registers⟩ := extended
  simp only [execute, traceEvents_extended registers, place, events]
  cases machine.traceEvents body snapshot.registers with
  | error cause => exact .ended ⟨rfl, .failed⟩
  | ok traced =>
      rcases body.operation.effect_extended registers machine.limit snapshot.place with
        ⟨failure, failed, otherFailed⟩ | ⟨control, otherControl, done, otherDone, same⟩
      · simp only [failed, otherFailed]
        exact .ended ⟨rfl, .failed⟩
      · simp only [done, otherDone]
        cases same with
        | halt =>
            rw [steps]
            exact .ended ⟨rfl, .returned registers⟩
        | @jump target changed otherChanged computed changedExtended =>
            simp only [arrive, place, steps]
            by_cases inside : 0 ≤ target ∧ target < machine.cells.length
            · rw [if_pos inside, if_pos inside]
              exact .onward ⟨rfl, rfl, rfl, changedExtended⟩
            · rw [if_neg inside, if_neg inside]
              exact .ended ⟨rfl, .failed⟩

/-- A machine keeps in step with itself. -/
theorem Machine.inStep_extended (added : List String) (machine : Machine) :
    InStep (Snapshot.Extended added) (Run.Extended added) machine machine where
  step := by
    intro snapshot other extended
    unfold step
    rw [extended.place]
    cases machine.cells[snapshot.place]? with
    | none => exact .ended ⟨congrArg List.reverse extended.events, .failed⟩
    | some token =>
        dsimp only
        cases token.asInstruction with
        | error cause => exact .ended ⟨congrArg List.reverse extended.events, .failed⟩
        | ok body => exact execute_extended extended machine body
  exhausted := by
    rintro ⟨place, steps, registers, events⟩ ⟨_, _, other, _⟩ ⟨rfl, rfl, rfl, extended⟩
    exact ⟨rfl, .returned extended⟩

/-! ## Zeros behind the arguments -/

/-- Recording a zero in a register that is not recorded leaves its value. -/
private theorem Store.value_seededFrom_zeros (index count : Nat) (name : String) :
    (Store.seededFrom index (List.replicate count 0)).value name = 0 := by
  induction count generalizing index with
  | zero => rfl
  | succ count inductionHypothesis =>
      rw [List.replicate_succ, Store.seededFrom, Store.value, Store.record]
      by_cases here : name = numberedRegister index
      · rw [here, Function.update_self]
        rfl
      · rw [Function.update_of_ne here]
        exact inductionHypothesis (index + 1)

theorem Store.value_seededFrom_append_zeros (index : Nat) (arguments : List Int) (count : Nat)
    (name : String) :
    (Store.seededFrom index (arguments ++ List.replicate count 0)).value name =
      (Store.seededFrom index arguments).value name := by
  induction arguments generalizing index with
  | nil => exact Store.value_seededFrom_zeros index count name
  | cons value later inductionHypothesis =>
      rw [List.cons_append, Store.seededFrom, Store.seededFrom, Store.value, Store.value,
        Store.record, Store.record]
      by_cases here : name = numberedRegister index
      · rw [here, Function.update_self, Function.update_self]
      · rw [Function.update_of_ne here, Function.update_of_ne here]
        exact inductionHypothesis (index + 1)

namespace RegisterFile

/-- The numbered registers behind those of the arguments. -/
def behind (arguments : List Int) (count : Nat) : List String :=
  (List.range count).map fun place => numberedRegister (arguments.length + place)

theorem seeds_append_zeros (arguments : List Int) (count : Nat) :
    seeds (arguments ++ List.replicate count 0) = seeds arguments ++ behind arguments count := by
  rw [seeds, List.length_append, List.length_replicate, List.range_add, List.map_append,
    List.map_map]
  rfl

/-- Zeros behind natural arguments are accepted, and extend the registers. -/
theorem ofArguments_append_zeros (limit : DigitLimit) {arguments : List Int}
    (natural : ∀ value ∈ arguments, 0 ≤ value) (count : Nat) :
    ∃ registers other, ofArguments limit arguments = .ok registers ∧
      ofArguments limit (arguments ++ List.replicate count 0) = .ok other ∧
      registers.Extended (behind arguments count) other := by
  have stillNatural : ∀ value ∈ arguments ++ List.replicate count 0, (0 : Int) ≤ value := by
    intro value member
    rcases List.mem_append.mp member with given | zero
    · exact natural value given
    · exact (List.eq_of_mem_replicate zero).ge
  obtain ⟨registers, accepted, store⟩ := ofArguments_eq_ok limit natural
  obtain ⟨other, otherAccepted, otherStore⟩ := ofArguments_eq_ok limit stillNatural
  have recorded := has_of_ofArguments accepted
  have otherRecorded := has_of_ofArguments otherAccepted
  simp only [seeds_append_zeros, List.mem_append] at otherRecorded
  refine ⟨registers, other, accepted, otherAccepted, ?_, ?_, ?_⟩
  · funext name
    rw [← value_store, ← value_store, otherStore, store, Store.value_seededFrom_append_zeros]
  · intro name known
    exact (otherRecorded name).mpr (.inl ((recorded name).mp known))
  · intro name known
    exact ((otherRecorded name).mp known).imp_left (recorded name).mpr

end RegisterFile

/-- An unset register cannot be told from one that holds zero. Zeros behind the arguments change
neither what is seen of a run nor how it ends nor the value of any register, and only add their own
registers to those that are recorded. -/
theorem run_append_zeros (limit : DigitLimit) (settings : Settings) (program : Program)
    {arguments : List Int} (natural : ∀ value ∈ arguments, 0 ≤ value) (count : Nat) :
    let run := program.run limit settings arguments
    let other := program.run limit settings (arguments ++ List.replicate count 0)
    other.events = run.events ∧ other.lines = run.lines ∧
      ((∃ error, run.result = .error error ∧ other.result = .error error) ∨
        ∃ result otherResult, run.result = .ok result ∧ other.result = .ok otherResult ∧
          otherResult.outcome = result.outcome ∧ otherResult.steps = result.steps ∧
          otherResult.place = result.place ∧
          (∀ name, result.registers.has name = true → otherResult.registers.has name = true ∧
            otherResult.registers.value name = result.registers.value name) ∧
          ∀ name, otherResult.registers.has name = true → ¬ result.registers.has name = true →
            otherResult.registers.value name = 0 ∧
              ∃ place < count, name = numberedRegister (arguments.length + place)) := by
  intro run other
  let machine : Machine := ⟨program.tokens, settings, limit⟩
  let added := RegisterFile.behind arguments count
  obtain ⟨registers, otherRegisters, accepted, otherAccepted, extended⟩ :=
    RegisterFile.ofArguments_append_zeros limit natural count
  obtain ⟨events, same⟩ : Run.Extended added run other :=
    (machine.inStep_extended added).run rfl (fun cause => ⟨rfl, .failed⟩)
      (.inr ⟨registers, otherRegisters, accepted, otherAccepted, rfl, rfl, rfl, extended⟩)
  refine ⟨events, by rw [Run.lines, events, Run.lines], ?_⟩
  generalize run.result = result at same ⊢
  generalize other.result = otherResult at same ⊢
  cases same with
  | failed => exact .inl ⟨_, rfl, rfl⟩
  | @returned final otherFinal outcome steps place finalExtended =>
      refine .inr ⟨_, _, rfl, rfl, rfl, rfl, rfl, ?_, ?_⟩
      · intro name recorded
        exact ⟨finalExtended.kept name recorded, congrFun finalExtended.value name⟩
      · intro name recorded absent
        have isAdded := (finalExtended.new name recorded).resolve_left absent
        obtain ⟨place, below, named⟩ := List.mem_map.mp isAdded
        exact ⟨finalExtended.value_of_new absent, place, List.mem_range.mp below, named.symm⟩

/-- Counts a register that is not set, adds another one to it and tests that one. -/
def unsetReader : Program :=
  [⟨.inc "r1" 1, "r1+ -> 1", 1, true, none⟩, ⟨.eval "" "r2" "r1 + r3", "", 2, false, none⟩,
    ⟨.dec "r3" 0 3, "r3- -> 0, 3", 3, true, none⟩, ⟨.halt "Halt", "halt", 4, false, none⟩]

/-- Four zeros behind the argument: the last of them is in the only register that is new. -/
theorem run_append_zeros_unsetReader :
    let run := unsetReader.run .unlimited {} [5]
    let other := unsetReader.run .unlimited {} [5, 0, 0, 0, 0]
    (∀ value ∈ [(5 : Int)], 0 ≤ value) ∧ run.lines = ["line 1: r1+ -> 1 was 0",
        "line 3: r3- -> 0, 3 was 0"] ∧ other.lines = run.lines ∧
      ∃ result otherResult, run.result = .ok result ∧ other.result = .ok otherResult ∧
        otherResult.steps = result.steps ∧ otherResult.registers.value "r2" = 1 ∧
        ¬ result.registers.has "r4" = true ∧ otherResult.registers.has "r4" = true ∧
        otherResult.registers.value "r4" = 0 := by
  intro run other
  have natural : ∀ value ∈ [(5 : Int)], 0 ≤ value := by decide
  have returned : run.result =
      .ok ⟨⟨⟨[("r0", 5), ("r1", 1), ("r2", 1), ("r3", 0)], by decide⟩⟩, .halted "Halt", 4, 3⟩ := rfl
  obtain ⟨-, lines, ⟨error, failed, -⟩ |
      ⟨result, otherResult, ended, otherEnded, -, steps, -, kept, new⟩⟩ :=
    run_append_zeros .unlimited {} unsetReader natural 4
  · cases returned.symm.trans failed
  · cases returned.symm.trans ended
    have recorded : otherResult.registers.has "r4" = true := by
      cases otherEnded
      rfl
    refine ⟨natural, rfl, lines, _, otherResult, returned, otherEnded, steps, (kept "r2" rfl).2, ?_,
      recorded, (new "r4" recorded ?_).1⟩
    · decide
    · decide

end CounterMachine
