import CounterMachine.Machine.Basic
import Mathlib.Logic.Function.Basic

/-!
Contract: the meaning of a program, step by step, apart from any machine that runs it.

Owns: registers as a function of their names, the effect of each operation on them and on the
place, sequences of steps inside the program, and the three ways in which no further step
inside the program is possible.

Does not own: budgets, traces and reports.

A register is recorded once it has been seeded, written or counted, and a register that is not
recorded counts as zero. Numerals are read without a limit.
-/

set_option autoImplicit false

namespace CounterMachine

open Text

/-! ## Registers -/

/-- The values of the recorded registers. -/
abbrev Store := String → Option Int

namespace Store

def value (store : Store) (register : String) : Int :=
  (store register).getD 0

def record (store : Store) (register : String) (value : Int) : Store :=
  Function.update store register (some value)

/-- The arguments in the numbered registers from an index on, and nothing else. -/
def seededFrom : Nat → List Int → Store
  | _, [] => fun _ => none
  | index, value :: later =>
      (seededFrom (index + 1) later).record (numberedRegister index) value

end Store

/-! ## Operations -/

/-- What the operation at an index does: the place it goes to and the registers it leaves. A
decrement of a register that is not positive records the register with the value it has. -/
inductive Operation.Performs (index : Nat) (store : Store) :
    Operation Int → Int → Store → Prop where
  | init (register : String) (value : Int) :
      Performs index store (.init register value) (index + 1) (store.record register value)
  | inc (register : String) (next : Int) :
      Performs index store (.inc register next) next
        (store.record register (store.value register + 1))
  | decPositive (register : String) (onPositive onZero : Int)
      (positive : 0 < store.value register) :
      Performs index store (.dec register onPositive onZero) onPositive
        (store.record register (store.value register - 1))
  | decZero (register : String) (onPositive onZero : Int)
      (notPositive : store.value register ≤ 0) :
      Performs index store (.dec register onPositive onZero) onZero
        (store.record register (store.value register))
  | eval (description register code : String) {value : Int}
      (evaluated : Expression.evaluate .unlimited store.value code = .ok value) :
      Performs index store (.eval description register code) (index + 1)
        (store.record register value)

/-! ## Steps -/

/-- A place in the program and the registers at that time. -/
structure Configuration where
  place : Nat
  registers : Store

namespace Configuration

/-- The first instruction, with the arguments in the registers r0, r1 and so on. -/
def start (arguments : List Int) : Configuration :=
  ⟨0, Store.seededFrom 0 arguments⟩

/-- The effect of the instruction at the place, if it goes to a place inside the program. -/
inductive Step (program : Program) (configuration : Configuration) : Configuration → Prop where
  | performed {body : Instruction Int} {place : Nat} {registers : Store}
      (found : program[configuration.place]? = some body)
      (performs : body.operation.Performs configuration.place configuration.registers place
        registers)
      (inside : place < program.length) :
      Step program configuration ⟨place, registers⟩

/-- So many steps lead from one configuration to another. -/
inductive Path (program : Program) : Nat → Configuration → Configuration → Prop where
  | refl (configuration : Configuration) : Path program 0 configuration configuration
  | step {count : Nat} {first middle last : Configuration}
      (moved : first.Step program middle) (later : Path program count middle last) :
      Path program (count + 1) first last

/-! ## Ends -/

variable (program : Program) (configuration : Configuration) (body : Instruction Int)

/-- The instruction at the place is a halt. -/
structure Halts (reason : String) : Prop where
  found : program[configuration.place]? = some body
  operation : body.operation = .halt reason

/-- The instruction at the place is an evaluation whose expression has no value. -/
structure Fails (failure : EvalFailure) : Prop where
  found : program[configuration.place]? = some body
  operation : ∃ register, body.operation = .eval failure.description register failure.code
  noValue :
    Expression.evaluate .unlimited configuration.registers.value failure.code =
      .error failure.cause

/-- The instruction at the place goes to a place outside the program. -/
structure Leaves (target : Int) : Prop where
  found : program[configuration.place]? = some body
  performs : ∃ registers,
    body.operation.Performs configuration.place configuration.registers target registers
  outside : ¬ (0 ≤ target ∧ target < program.length)

/-- The instruction at the place is the last one of a run, whatever the budget. -/
inductive Ends : Prop where
  | halts {body : Instruction Int} {reason : String}
      (halts : configuration.Halts program body reason) : Ends
  | fails {body : Instruction Int} {failure : EvalFailure}
      (fails : configuration.Fails program body failure) : Ends
  | leaves {body : Instruction Int} {target : Int}
      (leaves : configuration.Leaves program body target) : Ends

end Configuration

/-! ## Progress -/

variable {program : Program}

/-- An operation that has an effect goes on or leaves the program. -/
private theorem Operation.Performs.step_or_ends {configuration : Configuration}
    {body : Instruction Int} (found : program[configuration.place]? = some body)
    {operation : Operation Int} (same : body.operation = operation) {target : Int}
    {registers : Store}
    (performs : operation.Performs configuration.place configuration.registers target
      registers) :
    (∃ next, configuration.Step program next) ∨ configuration.Ends program := by
  rw [← same] at performs
  by_cases inside : 0 ≤ target ∧ target < program.length
  · obtain ⟨place, rfl⟩ := Int.eq_ofNat_of_zero_le inside.1
    exact .inl ⟨_, .performed found performs (Int.ofNat_lt.mp inside.2)⟩
  · exact .inr (.leaves ⟨found, ⟨registers, performs⟩, inside⟩)

/-- By cases on the operation at the place, which is inside the program. -/
theorem Configuration.step_or_ends {configuration : Configuration}
    (inside : configuration.place < program.length) :
    (∃ next, configuration.Step program next) ∨ configuration.Ends program := by
  have found := List.getElem?_eq_getElem inside
  cases operation : program[configuration.place].operation with
  | init register value =>
      exact Operation.Performs.step_or_ends found operation (.init register value)
  | inc register next =>
      exact Operation.Performs.step_or_ends found operation (.inc register next)
  | dec register onPositive onZero =>
      by_cases positive : 0 < configuration.registers.value register
      · exact Operation.Performs.step_or_ends found operation
          (.decPositive register onPositive onZero positive)
      · exact Operation.Performs.step_or_ends found operation
          (.decZero register onPositive onZero (Int.not_lt.mp positive))
  | halt reason => exact .inr (.halts ⟨found, operation⟩)
  | eval description register code =>
      cases evaluated : Expression.evaluate .unlimited configuration.registers.value code with
      | ok value =>
          exact Operation.Performs.step_or_ends found operation
            (.eval description register code evaluated)
      | error cause =>
          have fails : configuration.Fails program program[configuration.place]
              ⟨description, code, cause⟩ := ⟨found, ⟨register, operation⟩, evaluated⟩
          exact .inr (.fails fails)

/-- As long as no end comes up within a number of steps, so many steps can be taken. -/
theorem Configuration.exists_path {first : Configuration} (inside : first.place < program.length)
    {budget : Nat}
    (endless : ∀ count last, count < budget → Path program count first last →
      ¬ last.Ends program) :
    ∃ last, Path program budget first last := by
  induction budget generalizing first with
  | zero => exact ⟨first, .refl first⟩
  | succ budget inductionHypothesis =>
      have goesOn := endless 0 first (Nat.succ_pos budget) (.refl first)
      obtain ⟨middle, moved⟩ := (step_or_ends inside).resolve_right goesOn
      have middleInside : middle.place < program.length := by
        cases moved with
        | performed found performs inside => exact inside
      obtain ⟨last, later⟩ := inductionHypothesis middleInside
        fun count last below path => endless (count + 1) last (Nat.succ_lt_succ below)
          (.step moved path)
      exact ⟨last, .step moved later⟩

end CounterMachine
