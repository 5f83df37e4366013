import CounterMachine.Linking
import CounterMachine.Proofs.Machine.Lockstep
import CounterMachine.Proofs.Machine.Visits
import CounterMachine.Proofs.Sequencing

/-!
Contract: which registers a run records.

Owns: the registers that an operation sets or counts, and those that its expression names; that
a run which returns has recorded the registers of its arguments and those that the instructions it
executed set or count, and no others; and the exact condition under which that includes all that
these instructions name.

Does not own: the values of registers.

## Expressions

An expression is evaluated over the values of the registers at that time, and a register that is
not recorded counts as zero there. Looking it up does not record it, while counting it does, so a
register that only expressions name is missing at the end of the run.
-/

set_option autoImplicit false

namespace CounterMachine

open Text

/-! ## Registers of an operation -/

namespace Expression

mutual

/-- The registers that an expression names, in the order in which they are looked up. -/
def registers : Expression → List String
  | .literal _ => []
  | .register name => [name]
  | .negation operand => registers operand
  | .chain first others => registers first ++ operandRegisters others
  | .call _ first others => registers first ++ argumentRegisters others

def operandRegisters : List (BinaryOperator × Expression) → List String
  | [] => []
  | (_, operand) :: later => registers operand ++ operandRegisters later

def argumentRegisters : List Expression → List String
  | [] => []
  | argument :: later => registers argument ++ argumentRegisters later

end

end Expression

namespace Operation

variable {Jump : Type}

/-- The register that the operation sets or counts. -/
def recorded : Operation Jump → List String
  | .init register _ | .inc register _ | .dec register _ _ | .eval _ register _ => [register]
  | .halt _ => []

/-- The registers that the expression of the operation looks up. -/
def consulted : Operation Jump → List String
  | .eval _ _ code =>
      match Expression.parse code with
      | .ok tree => tree.registers
      | .error _ => []
  | .init _ _ | .inc _ _ | .dec _ _ _ | .halt _ => []

end Operation

/-! ## Seeding and effects -/

namespace RegisterFile

/-- Seeding records the numbered registers of the arguments. -/
theorem has_of_seedFrom {limit : DigitLimit} {index : Nat} {arguments : List Int}
    {registers seeded : RegisterFile}
    (accepted : seedFrom limit index registers arguments = .ok seeded) (name : String) :
    seeded.has name = true ↔
      (∃ place < arguments.length, name = numberedRegister (index + place)) ∨
        registers.has name = true := by
  induction arguments generalizing index registers with
  | nil =>
      cases accepted
      constructor
      · exact .inr
      · rintro (⟨place, below, -⟩ | known)
        · exact absurd below (Nat.not_lt_zero place)
        · exact known
  | cons value later inductionHypothesis =>
      rw [seedFrom] at accepted
      split at accepted
      · obtain ⟨_, -, impossible⟩ := bind_eq_ok.mp accepted
        cases impossible
      · rw [inductionHypothesis accepted, has_write]
        constructor
        · rintro (⟨place, below, same⟩ | here | known)
          · refine .inl ⟨place + 1, Nat.succ_lt_succ below, ?_⟩
            rw [same, Nat.add_right_comm, Nat.add_assoc]
          · exact .inl ⟨0, Nat.succ_pos _, here⟩
          · exact .inr known
        · rintro (⟨place, below, same⟩ | known)
          · cases place with
            | zero => exact .inr (.inl same)
            | succ place =>
                refine .inl ⟨place, Nat.lt_of_succ_lt_succ below, ?_⟩
                rw [same, Nat.add_right_comm, Nat.add_assoc]
          · exact .inr (.inr known)

/-- The names of the registers that the arguments are put into. -/
def seeds (arguments : List Int) : List String :=
  (List.range arguments.length).map numberedRegister

theorem has_of_ofArguments {limit : DigitLimit} {arguments : List Int} {registers : RegisterFile}
    (accepted : ofArguments limit arguments = .ok registers) (name : String) :
    registers.has name = true ↔ name ∈ seeds arguments := by
  rw [has_of_seedFrom accepted, seeds, List.mem_map]
  constructor
  · rintro (⟨place, below, same⟩ | impossible)
    · rw [Nat.zero_add] at same
      exact ⟨place, List.mem_range.mpr below, same.symm⟩
    · cases impossible
  · rintro ⟨place, below, same⟩
    refine .inl ⟨place, List.mem_range.mp below, ?_⟩
    rw [Nat.zero_add, same]

/-- By cases on the operation. A decrement of a register at zero records it as well. -/
theorem has_of_effect {limit : DigitLimit} {index : Nat} {registers changed : RegisterFile}
    {operation : Operation Int} {target : Int} {events : List Event}
    (effect : operation.effect limit index registers = .ok (.jump target changed events))
    (name : String) :
    changed.has name = true ↔ name ∈ operation.recorded ∨ registers.has name = true := by
  cases operation with
  | init register value =>
      cases effect
      rw [has_write, Operation.recorded, List.mem_singleton]
  | inc register next =>
      cases effect
      rw [has_write, Operation.recorded, List.mem_singleton]
  | dec register onPositive onZero =>
      simp only [Operation.effect] at effect
      split at effect
      · cases effect
        rw [has_write, Operation.recorded, List.mem_singleton]
      · cases effect
        rw [has_touch, Operation.recorded, List.mem_singleton]
  | halt reason => cases effect
  | eval description register code =>
      simp only [Operation.effect] at effect
      split at effect
      · cases effect
        rw [has_write, Operation.recorded, List.mem_singleton]
      · cases effect

end RegisterFile

/-! ## Runs -/

/-- The instructions that are fetched at the snapshots. -/
def Program.fetched (program : Program) (visits : List Snapshot) : List (Instruction Int) :=
  visits.filterMap fun snapshot => program[snapshot.place]?

theorem Program.fetched_cons {program : Program} {snapshot : Snapshot} {body : Instruction Int}
    (found : program[snapshot.place]? = some body) (later : List Snapshot) :
    program.fetched (snapshot :: later) = body :: program.fetched later :=
  List.filterMap_cons_some found

/-- The instructions that a run executes, in order. -/
def Program.executed (limit : DigitLimit) (settings : Settings) (program : Program)
    (arguments : List Int) : List (Instruction Int) :=
  program.fetched (program.visits limit settings arguments)

/-- By induction on the budget, one fetched instruction for each step. -/
theorem Machine.has_of_advance {machine : Machine} {program : Program}
    (cells : machine.cells = program.tokens) {budget : Nat} {first : Snapshot} {result : RunResult}
    (returned : (machine.advance budget first).result = .ok result) (name : String) :
    result.registers.has name = true ↔
      first.registers.has name = true ∨
        ∃ body ∈ program.fetched (machine.visitsFrom budget first),
          name ∈ body.operation.recorded := by
  induction budget generalizing first with
  | zero =>
      cases returned
      exact ⟨.inl, fun either => either.elim id fun ⟨_, impossible, _⟩ => nomatch impossible⟩
  | succ budget inductionHypothesis =>
      rw [advance] at returned
      rw [visitsFrom]
      cases moved : machine.step first with
      | onward next =>
          rw [moved] at returned
          cases step_eq_iff.mp moved with
          | jump cell tracing effect inside =>
              rw [cells, Program.tokens_getElem?_eq_some_iff] at cell
              rw [inductionHypothesis returned, RegisterFile.has_of_effect effect,
                Program.fetched_cons cell]
              simp only [List.mem_cons, or_and_right, exists_or, exists_eq_left]
              rw [or_assoc, or_left_comm]
      | ended events ending =>
          rw [moved] at returned
          cases returned
          cases step_eq_iff.mp moved with
          | @halt body traced reason cell tracing effect =>
              rw [cells, Program.tokens_getElem?_eq_some_iff] at cell
              -- A halt neither sets nor counts, and it is the last instruction to be fetched.
              have recordsNothing : body.operation.recorded = [] := by
                rw [Operation.eq_halt_of_effect effect]
                rfl
              rw [Program.fetched_cons cell]
              simp [recordsNothing, Program.fetched]

/-- A run that returns has recorded the registers of its arguments and those that the instructions
which it executed set or count. This includes all registers that their expressions name exactly if
each of those is also the register of an argument, or set or counted by an executed instruction. -/
theorem run_records {limit : DigitLimit} {program : Program} {settings : Settings}
    {arguments : List Int} {result : RunResult}
    (returned : (program.run limit settings arguments).result = .ok result) :
    let executed := program.executed limit settings arguments
    (∀ name, result.registers.has name = true ↔
      name ∈ RegisterFile.seeds arguments ∨ ∃ body ∈ executed, name ∈ body.operation.recorded) ∧
    ((∀ name, result.registers.has name = true ↔
        name ∈ RegisterFile.seeds arguments ∨
          ∃ body ∈ executed, name ∈ body.operation.recorded ∨ name ∈ body.operation.consulted) ↔
      ∀ body ∈ executed, ∀ name ∈ body.operation.consulted,
        name ∈ RegisterFile.seeds arguments ∨
          ∃ other ∈ executed, name ∈ other.operation.recorded) := by
  intro executed
  have records : ∀ name, result.registers.has name = true ↔
      name ∈ RegisterFile.seeds arguments ∨
        ∃ body ∈ executed, name ∈ body.operation.recorded := by
    intro name
    let machine : Machine := ⟨program.tokens, settings, limit⟩
    have ranOk : (machine.run arguments).result = .ok result := returned
    rcases machine.refused_or_started arguments with
      ⟨cause, refused, -⟩ | ⟨registers, accepted, ran, visited⟩
    · rw [refused] at ranOk
      cases ranOk
    · rw [ran] at ranOk
      have fetched : executed = program.fetched
          (machine.visitsFrom settings.maxSteps.toNat ⟨0, 0, registers, []⟩) :=
        congrArg program.fetched visited
      rw [Machine.has_of_advance rfl ranOk, RegisterFile.has_of_ofArguments accepted, fetched]
  refine ⟨records, ?_, ?_⟩
  · intro complete body member name named
    rw [← records, complete]
    exact .inr ⟨body, member, .inr named⟩
  · intro covered name
    rw [records]
    constructor
    · rintro (seed | ⟨body, member, recorded⟩)
      · exact .inl seed
      · exact .inr ⟨body, member, .inl recorded⟩
    · rintro (seed | ⟨body, member, recorded | named⟩)
      · exact .inl seed
      · exact .inr ⟨body, member, recorded⟩
      · exact covered body member name named

/-- Evaluates an expression and halts. -/
def evaluating (register code : String) : Program :=
  [⟨.eval "" register code, "eval \"\" " ++ register ++ " ::= " ++ code ++ ";", 1, false, none⟩,
    ⟨.halt "Halt", "halt", 2, false, none⟩]

/-- Both registers of a sum are arguments, and the third one is set. -/
theorem run_records_sum :
    let program := evaluating "r2" "r0 + r1"
    ∃ result, (program.run .standard {} [3, 4]).result = .ok result ∧
      ∀ name, result.registers.has name = true ↔
        name ∈ ["r0", "r1"] ∨ ∃ body ∈ program.executed .standard {} [3, 4],
          name ∈ body.operation.recorded ∨ name ∈ body.operation.consulted := by
  intro program
  have returned : (program.run .standard {} [3, 4]).result =
      .ok ⟨⟨⟨[("r0", 3), ("r1", 4), ("r2", 7)], by decide⟩⟩, .halted "Halt", 2, 1⟩ := rfl
  obtain ⟨-, complete⟩ := run_records returned
  have executed : program.executed .standard {} [3, 4] = program := rfl
  refine ⟨_, returned, complete.mpr ?_⟩
  intro body member name named
  rw [executed] at member
  refine .inl ?_
  rcases List.mem_pair.mp member with rfl | rfl
  · exact named
  · cases named

/-- A register that only an expression names is missing at the end of the run. -/
theorem run_omits_consulted :
    ∃ program result, compile .standard "eval \"\" r1 ::= r9;\nhalt" = .ok program ∧
      (program.run .standard {} []).result = .ok result ∧
      ¬ ∀ name, result.registers.has name = true ↔
        name ∈ RegisterFile.seeds [] ∨ ∃ body ∈ program.executed .standard {} [],
          name ∈ body.operation.recorded ∨ name ∈ body.operation.consulted := by
  have compiled : compile .standard "eval \"\" r1 ::= r9;\nhalt" = .ok (evaluating "r1" "r9") := by
    decide
  refine ⟨_, ⟨⟨⟨[("r1", 0)], by decide⟩⟩, .halted "Halt", 2, 1⟩, compiled, rfl, ?_⟩
  intro complete
  have executed : (evaluating "r1" "r9").executed .standard {} [] = evaluating "r1" "r9" := rfl
  have consults : ∃ body ∈ (evaluating "r1" "r9").executed .standard {} [],
      "r9" ∈ body.operation.recorded ∨ "r9" ∈ body.operation.consulted := by
    rw [executed]
    exact ⟨_, List.mem_cons_self, .inr (List.mem_singleton.mpr rfl)⟩
  exact absurd ((complete "r9").mpr (.inr consults)) (by decide)

end CounterMachine
