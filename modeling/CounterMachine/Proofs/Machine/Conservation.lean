import CounterMachine.Proofs.Machine.Invariant
import CounterMachine.Proofs.Machine.Recorded

/-!
Contract: counting runs keep accounts.

Owns: what a run has executed, with the registers before and after each instruction; and for
programs that only count and halt, that each register ends with what it was seeded with, plus the
times it was counted up and less the times it was counted down, that a decrement takes the branch
for zero exactly at zero, and that a run adds at most one to the sum of all registers per step.

Does not own: programs that set registers or evaluate expressions.

## How branches are told apart

Both branches of a decrement may lead to one place. Hence a branch is recognised by where control
goes and by what happens to the register, both as seen from outside.
-/

set_option autoImplicit false

namespace CounterMachine

open Text

/-! ## Sums of registers -/

theorem sum_insertEntry (name : String) (value : Int) (entries : List (String × Int)) :
    ((insertEntry name value entries).map Prod.snd).sum =
      (entries.map Prod.snd).sum - (entries.lookup name).getD 0 + value := by
  induction entries with
  | nil => simp [insertEntry]
  | cons entry later inductionHypothesis =>
      obtain ⟨known, old⟩ := entry
      by_cases same : known = name
      · simp only [insertEntry, same, if_true, List.map_cons, List.sum_cons, List.lookup_cons_self,
          Option.getD_some]
        omega
      · have different : (name == known) = false := beq_eq_false_iff_ne.mpr (Ne.symm same)
        simp only [insertEntry, same, if_false, List.map_cons, List.sum_cons, List.lookup_cons,
          different, inductionHypothesis]
        omega

namespace RegisterFile

/-- The sum of the recorded values. -/
def total (registers : RegisterFile) : Int :=
  (registers.entries.map Prod.snd).sum

theorem total_write (registers : RegisterFile) (name : String) (value : Int) :
    (registers.write name value).total = registers.total - registers.value name + value :=
  sum_insertEntry name value registers.entries

@[simp]
theorem total_touch (registers : RegisterFile) (name : String) :
    (registers.touch name).total = registers.total := by
  unfold touch
  split
  · rfl
  · next absent =>
    rw [total_write, value_of_not_has absent]
    omega

/-- Seeding registers that hold zero adds the arguments. -/
theorem total_of_seedFrom {limit : DigitLimit} {index : Nat} {arguments : List Int}
    {registers seeded : RegisterFile}
    (accepted : seedFrom limit index registers arguments = .ok seeded)
    (vacant : ∀ place, index ≤ place → registers.value (numberedRegister place) = 0) :
    seeded.total = registers.total + arguments.sum := by
  induction arguments generalizing index registers with
  | nil =>
      cases accepted
      exact (Int.add_zero _).symm
  | cons value later inductionHypothesis =>
      rw [seedFrom] at accepted
      split at accepted
      · obtain ⟨_, -, impossible⟩ := bind_eq_ok.mp accepted
        cases impossible
      · have vacantLater : ∀ place, index + 1 ≤ place →
            (registers.write (numberedRegister index) value).value (numberedRegister place) =
              0 := by
          intro place behind
          have different : numberedRegister place ≠ numberedRegister index := by
            intro same
            exact Nat.ne_of_gt behind (numberedRegister_inj.mp same)
          rw [value_write, if_neg different]
          exact vacant place (Nat.le_of_succ_le behind)
        rw [inductionHypothesis accepted vacantLater, total_write,
          vacant index (Nat.le_refl index), List.sum_cons]
        omega

theorem total_of_ofArguments {limit : DigitLimit} {arguments : List Int} {seeded : RegisterFile}
    (accepted : ofArguments limit arguments = .ok seeded) : seeded.total = arguments.sum :=
  (total_of_seedFrom accepted fun _ _ => rfl).trans (Int.zero_add _)

end RegisterFile

/-! ## What a run has executed -/

/-- An executed instruction with the registers before it, the place that control is at after it,
and the registers then. -/
structure Execution where
  body : Instruction Int
  before : RegisterFile
  place : Nat
  after : RegisterFile

/-- Place and registers before the next visit, or those that the run returns. -/
def RunResult.following (result : RunResult) : List Snapshot → Nat × RegisterFile
  | [] => (result.place, result.registers)
  | next :: _ => (next.place, next.registers)

/-- The instructions that are executed at the visits of a run with this result. -/
def Program.historyTo (program : Program) (result : RunResult) : List Snapshot → List Execution
  | [] => []
  | visit :: later =>
      match program[visit.place]? with
      | none => program.historyTo result later
      | some body =>
          let (place, after) := result.following later
          ⟨body, visit.registers, place, after⟩ :: program.historyTo result later

/-- All that a run with this result has executed, in order. -/
def Program.history (limit : DigitLimit) (settings : Settings) (program : Program)
    (arguments : List Int) (result : RunResult) : List Execution :=
  program.historyTo result (program.visits limit settings arguments)

theorem Program.map_body_historyTo (program : Program) (result : RunResult)
    (visits : List Snapshot) :
    (program.historyTo result visits).map (fun execution => execution.body) =
      program.fetched visits := by
  induction visits with
  | nil => rfl
  | cons visit later inductionHypothesis =>
      rw [historyTo]
      cases found : program[visit.place]? with
      | none =>
          have absent : program.fetched (visit :: later) = program.fetched later :=
            List.filterMap_cons_none found
          rw [absent]
          exact inductionHypothesis
      | some body =>
          rw [fetched_cons found, ← inductionHypothesis]
          rfl

namespace Execution

/-- The instruction counts the register up. -/
def countsUp (name : String) (execution : Execution) : Bool :=
  match execution.body.operation with
  | .inc register _ => register == name
  | _ => false

/-- A decrement of the register has gone to its first operand, with one less in the register. -/
def takesPositive (name : String) (execution : Execution) : Bool :=
  match execution.body.operation with
  | .dec register onPositive _ =>
      register == name && (execution.place : Int) == onPositive &&
        execution.after.value name == execution.before.value name - 1
  | _ => false

/-- A decrement of the register has gone to its second operand, with the register as it was. -/
def takesZero (name : String) (execution : Execution) : Bool :=
  match execution.body.operation with
  | .dec register _ onZero =>
      register == name && (execution.place : Int) == onZero &&
        execution.after.value name == execution.before.value name
  | _ => false

variable {execution : Execution} {name : String}

theorem mem_recorded_of_countsUp (counted : execution.countsUp name = true) :
    name ∈ execution.body.operation.recorded := by
  unfold countsUp at counted
  split at counted
  · next operation =>
    rw [operation, beq_iff_eq.mp counted]
    exact List.mem_singleton.mpr rfl
  · cases counted

theorem mem_recorded_of_takesPositive (taken : execution.takesPositive name = true) :
    name ∈ execution.body.operation.recorded := by
  unfold takesPositive at taken
  split at taken
  · next operation =>
    simp only [Bool.and_eq_true, beq_iff_eq] at taken
    rw [operation, taken.1.1]
    exact List.mem_singleton.mpr rfl
  · cases taken

/-- What an execution does to each register, which branch it takes, and what it adds to the sum
of all registers. -/
structure Balanced (execution : Execution) : Prop where
  value : ∀ name, execution.after.value name = execution.before.value name +
    (if execution.countsUp name then 1 else 0) - (if execution.takesPositive name then 1 else 0)
  branches : ∀ register onPositive onZero,
    execution.body.operation = .dec register onPositive onZero →
      (execution.takesZero register = true ↔ execution.before.value register = 0) ∧
        (execution.takesPositive register = true ↔ 0 < execution.before.value register)
  total : execution.after.total ≤ execution.before.total + 1

end Execution

/-! ## Single executions -/

/-- The operation counts a register or halts. -/
def Operation.counts {Jump : Type} : Operation Jump → Bool
  | .inc _ _ | .dec _ _ _ | .halt _ => true
  | .init _ _ | .eval _ _ _ => false

/-- The program consists of increments, decrements and halts. -/
def Program.OnlyCounts (program : Program) : Prop :=
  ∀ body ∈ program, body.operation.counts = true

namespace Execution

variable {body : Instruction Int} {registers : RegisterFile} {place : Nat}

theorem Balanced.of_inc {register : String} {next : Int}
    (operation : body.operation = .inc register next) :
    Balanced ⟨body, registers, place,
      registers.write register (registers.value register + 1)⟩ where
  value name := by
    simp only [countsUp, takesPositive, operation, RegisterFile.value_write, beq_iff_eq]
    by_cases same : name = register
    · simp [same]
    · simp [same, Ne.symm same]
  branches other onPositive onZero decrement := by
    rw [operation] at decrement
    cases decrement
  total := by
    simp only [RegisterFile.total_write]
    omega

theorem Balanced.of_dec_positive {register : String} {onZero : Int}
    (operation : body.operation = .dec register place onZero)
    (positive : 0 < registers.value register) :
    Balanced ⟨body, registers, place,
      registers.write register (registers.value register - 1)⟩ where
  value name := by
    simp only [countsUp, takesPositive, operation, RegisterFile.value_write]
    by_cases same : name = register
    · simp [same]
    · simp [same, Ne.symm same]
  branches other onPositive otherZero decrement := by
    rw [operation] at decrement
    cases decrement
    have notZero : registers.value register ≠ 0 := Int.ne_of_gt positive
    simp [takesZero, takesPositive, operation, RegisterFile.value_write, positive, notZero]
  total := by
    simp only [RegisterFile.total_write]
    omega

theorem Balanced.of_dec_zero {register : String} {onPositive : Int}
    (operation : body.operation = .dec register onPositive place)
    (zero : registers.value register = 0) :
    Balanced ⟨body, registers, place, registers.touch register⟩ where
  value name := by
    have less : ¬ registers.value name = registers.value name - 1 := by omega
    simp [countsUp, takesPositive, operation, less]
  branches other otherPositive onZero decrement := by
    rw [operation] at decrement
    cases decrement
    simp [takesZero, takesPositive, operation, zero]
  total := by
    simp only [RegisterFile.total_touch]
    omega

theorem Balanced.of_halt {reason : String} (operation : body.operation = .halt reason) :
    Balanced ⟨body, registers, place, registers⟩ where
  value name := by simp [countsUp, takesPositive, operation]
  branches register onPositive onZero decrement := by
    rw [operation] at decrement
    cases decrement
  total := Int.le_add_of_nonneg_right Int.one_nonneg

end Execution

theorem Program.OnlyCounts.initialsNatural {program : Program} (counting : program.OnlyCounts) :
    program.InitialsNatural := by
  intro body member register value initial
  have counts := counting body member
  rw [initial] at counts
  cases counts

/-- By cases on the operation, which may be neither an initialisation nor an evaluation. -/
theorem Execution.Balanced.of_effect {limit : DigitLimit} {index place : Nat}
    {body : Instruction Int} {registers changed : RegisterFile} {events : List Event}
    (counts : body.operation.counts = true) (natural : registers.Natural)
    (effect : body.operation.effect limit index registers = .ok (.jump place changed events)) :
    Balanced ⟨body, registers, place, changed⟩ := by
  cases operation : body.operation with
  | init register value =>
      rw [operation] at counts
      cases counts
  | inc register next =>
      rw [operation] at effect
      cases effect
      exact .of_inc operation
  | dec register onPositive onZero =>
      rw [operation] at effect
      simp only [Operation.effect] at effect
      split at effect
      · next positive =>
        cases effect
        exact .of_dec_positive operation positive
      · next notPositive =>
        cases effect
        have nonneg := natural.value_nonneg register
        exact .of_dec_zero operation (Int.le_antisymm (Int.not_lt.mp notPositive) nonneg)
  | halt reason =>
      rw [operation] at effect
      cases effect
  | eval description register code =>
      rw [operation] at counts
      cases counts

/-! ## Accounts -/

/-- Balanced executions, each of which begins with the registers that the one before it has left,
from the first registers to the last. -/
inductive Account : RegisterFile → List Execution → RegisterFile → Prop where
  | closed (registers : RegisterFile) : Account registers [] registers
  | entered {execution : Execution} {later : List Execution} {last : RegisterFile}
      (balanced : execution.Balanced) (rest : Account execution.after later last) :
      Account execution.before (execution :: later) last

namespace Account

variable {first last : RegisterFile} {history : List Execution}

theorem balanced (account : Account first history last) :
    ∀ execution ∈ history, execution.Balanced := by
  induction account with
  | closed registers =>
      intro execution member
      cases member
  | entered balancedHere rest inductionHypothesis =>
      exact List.forall_mem_cons.mpr ⟨balancedHere, inductionHypothesis⟩

theorem value_eq (account : Account first history last) (name : String) :
    last.value name = first.value name + history.countP (Execution.countsUp name) -
      history.countP (Execution.takesPositive name) := by
  induction account with
  | closed registers => simp
  | @entered execution later last balancedHere rest inductionHypothesis =>
      rw [inductionHypothesis, balancedHere.value name, List.countP_cons, List.countP_cons]
      push_cast
      omega

/-- Neither count goes on without an instruction that names the register. -/
theorem value_of_unnamed (account : Account first history last) {name : String}
    (unnamed : ∀ execution ∈ history, name ∉ execution.body.operation.recorded) :
    last.value name = first.value name := by
  have neverUp : history.countP (Execution.countsUp name) = 0 :=
    List.countP_eq_zero.mpr fun execution member counted =>
      unnamed execution member (Execution.mem_recorded_of_countsUp counted)
  have neverDown : history.countP (Execution.takesPositive name) = 0 :=
    List.countP_eq_zero.mpr fun execution member taken =>
      unnamed execution member (Execution.mem_recorded_of_takesPositive taken)
  rw [account.value_eq, neverUp, neverDown]
  omega

theorem total_le (account : Account first history last) :
    last.total ≤ first.total + history.length := by
  induction account with
  | closed registers => exact (Int.add_zero _).ge
  | entered balancedHere rest inductionHypothesis =>
      have here := balancedHere.total
      rw [List.length_cons]
      omega

end Account

section Runs

variable {machine : Machine} {program : Program} {budget : Nat} {first : Snapshot}
  {result : RunResult}

/-- What follows the visits so far is the place that the run goes on from. -/
theorem Machine.following_visitsFrom
    (returned : (machine.advance budget first).result = .ok result) :
    result.following (machine.visitsFrom budget first) = (first.place, first.registers) := by
  cases budget with
  | zero =>
      cases returned
      rfl
  | succ budget => rfl

/-- By induction on the budget, one balanced execution for each step. -/
theorem Machine.account_of_advance (cells : machine.cells = program.tokens)
    (counting : program.OnlyCounts) (natural : first.registers.Natural)
    (returned : (machine.advance budget first).result = .ok result) :
    let history := program.historyTo result (machine.visitsFrom budget first)
    Account first.registers history result.registers ∧
      result.steps = first.steps + history.length := by
  induction budget generalizing first with
  | zero =>
      cases returned
      exact ⟨.closed first.registers, rfl⟩
  | succ budget inductionHypothesis =>
      rw [advance] at returned
      rw [visitsFrom]
      cases moved : machine.step first with
      | onward next =>
          rw [moved] at returned
          cases step_eq_iff.mp moved with
          | @jump body traced computed target registers cell tracing effect inside =>
              rw [cells, Program.tokens_getElem?_eq_some_iff] at cell
              have member := List.mem_of_getElem? cell
              obtain ⟨place, rfl⟩ := Int.eq_ofNat_of_zero_le inside.1
              have changedNatural :=
                natural.of_effect (counting.initialsNatural body member) effect
              obtain ⟨account, steps⟩ := inductionHypothesis changedNatural returned
              simp only [Program.historyTo, cell, following_visitsFrom returned]
              refine ⟨.entered (.of_effect (counting body member) natural effect) account, ?_⟩
              rw [steps, List.length_cons, Nat.add_right_comm, Nat.add_assoc]
      | ended events ending =>
          rw [moved] at returned
          cases returned
          cases step_eq_iff.mp moved with
          | halt cell tracing effect =>
              rw [cells, Program.tokens_getElem?_eq_some_iff] at cell
              simp only [Program.historyTo, cell, RunResult.following]
              exact ⟨.entered (.of_halt (Operation.eq_halt_of_effect effect)) (.closed _), rfl⟩

end Runs

/-- A program of increments, decrements and halts that returns has executed as many instructions
as it reports steps. Every register then holds what it was seeded with, and one more for each
increment of it, and one less for each decrement of it on the branch for positive values; that
branch was taken above zero, and the other one at zero. A register that no executed instruction
names is as it was seeded, and the sum of all registers is at most that of the arguments and the
number of steps. -/
theorem run_conserves {limit : DigitLimit} {program : Program} {settings : Settings}
    {arguments : List Int} {result : RunResult} (counting : program.OnlyCounts)
    (natural : ∀ value ∈ arguments, 0 ≤ value)
    (returned : (program.run limit settings arguments).result = .ok result) :
    let executed := program.executed limit settings arguments
    let history := program.history limit settings arguments result
    let seeded := Store.seededFrom 0 arguments
    history.map (fun execution => execution.body) = executed ∧
    history.length = result.steps ∧
    (∀ name, result.registers.value name =
      seeded.value name + history.countP (Execution.countsUp name) -
        history.countP (Execution.takesPositive name)) ∧
    (∀ execution ∈ history, ∀ register onPositive onZero,
      execution.body.operation = .dec register onPositive onZero →
        (execution.takesZero register = true ↔ execution.before.value register = 0) ∧
          (execution.takesPositive register = true ↔ 0 < execution.before.value register)) ∧
    (∀ name, (∀ body ∈ executed, name ∉ body.operation.recorded) →
      result.registers.value name = seeded.value name) ∧
    (result.registers.entries.map Prod.snd).sum ≤ arguments.sum + result.steps := by
  intro executed history seeded
  let machine : Machine := ⟨program.tokens, settings, limit⟩
  have ranOk : (machine.run arguments).result = .ok result := returned
  obtain ⟨registers, accepted, stored⟩ := RegisterFile.ofArguments_eq_ok limit natural
  have seededValue : ∀ name, registers.value name = seeded.value name := by
    intro name
    rw [← RegisterFile.value_store, stored]
  have bodies : history.map (fun execution => execution.body) = executed :=
    program.map_body_historyTo result _
  obtain ⟨account, steps⟩ : Account registers history result.registers ∧
      result.steps = history.length := by
    rcases machine.refused_or_started arguments with
      ⟨cause, refused, -⟩ | ⟨started, acceptedHere, ran, visited⟩
    · rw [refused] at ranOk
      cases ranOk
    · cases accepted.symm.trans acceptedHere
      have startNatural : registers.Natural := .of_seedFrom .empty accepted
      rw [ran] at ranOk
      have same : history = program.historyTo result (machine.visitsFrom _ _) :=
        congrArg (program.historyTo result) visited
      rw [same, ← Nat.zero_add (List.length _)]
      exact Machine.account_of_advance rfl counting startNatural ranOk
  refine ⟨bodies, steps.symm, ?_, ?_, ?_, ?_⟩
  · intro name
    rw [account.value_eq, seededValue]
  · intro execution member
    exact (account.balanced execution member).branches
  · intro name unnamed
    rw [← seededValue]
    refine account.value_of_unnamed fun execution member => ?_
    exact unnamed _ (bodies ▸ List.mem_map_of_mem member)
  · rw [← RegisterFile.total_of_ofArguments accepted, steps]
    exact account.total_le

/-- Counts the second register up before each attempt to count the first one down. -/
def transferring : Program :=
  [⟨.inc "r1" 1, "r1+ -> +1", 1, false, none⟩, ⟨.dec "r0" 0 2, "r0- -> 0, +1", 2, false, none⟩,
    ⟨.halt "Halt", "halt", 3, false, none⟩]

/-- Two decrements from two take the branch for positive values, and the third one does not. -/
theorem run_conserves_transferring :
    compile .standard "r1+ -> +1\nr0- -> 0, +1\nhalt" = .ok transferring ∧
      transferring.OnlyCounts ∧ (∀ value ∈ [(2 : Int)], 0 ≤ value) ∧
      ∃ result, (transferring.run .standard {} [2]).result = .ok result ∧
        let history := transferring.history .standard {} [2] result
        history.length = 7 ∧
        history.countP (Execution.takesZero "r0") = 1 ∧
        result.registers.value "r0" = 2 + (0 : Nat) - (2 : Nat) ∧
        result.registers.value "r1" = 0 + (3 : Nat) - (0 : Nat) ∧
        (result.registers.entries.map Prod.snd).sum ≤ 2 + 7 := by
  have counting : transferring.OnlyCounts := by
    unfold Program.OnlyCounts
    decide
  have natural : ∀ value ∈ [(2 : Int)], 0 ≤ value := by decide
  have returned : (transferring.run .standard {} [2]).result =
      .ok ⟨⟨⟨[("r0", 0), ("r1", 3)], by decide⟩⟩, .halted "Halt", 7, 2⟩ := rfl
  obtain ⟨-, length, values, -, -, total⟩ := run_conserves counting natural returned
  exact ⟨rfl, counting, natural, _, returned, length, rfl, values "r0", values "r1", total⟩

end CounterMachine
