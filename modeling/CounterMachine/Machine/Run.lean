import CounterMachine.Machine.Basic

/-!
Contract: runs of a machine.

Owns: settings, the step from one instruction to the next, and `run`, which steps until
the program halts, fails or has used up its budget.

A program may hold labels and trace markers that linking would have removed; reaching
one of them fails. The places a run reaches always lie inside the program, since a jump
outside fails at the instruction that makes it.
-/

set_option autoImplicit false

namespace CounterMachine

open Text

structure Settings where
  maxSteps : Int := 1000
  traceAll : Bool := false
deriving DecidableEq, Repr

def Settings.problems (settings : Settings) : List Violation :=
  if settings.maxSteps ≤ 0 then [.budgetNotPositive] else []

def Settings.check (settings : Settings) : Except Violation Unit :=
  match settings.problems with
  | [] => .ok ()
  | problem :: _ => .error problem

theorem Settings.check_eq_ok {settings : Settings} (positive : 0 < settings.maxSteps) :
    settings.check = .ok () := by
  have notZero : ¬ settings.maxSteps ≤ 0 := Int.not_le.mpr positive
  simp only [check, problems, if_neg notZero]

structure Machine where
  cells : List (Token Int)
  settings : Settings := {}
  limit : DigitLimit := .standard

inductive Outcome where
  | halted (reason : String)
  | budgetExceeded
deriving DecidableEq, Repr

/-- Registers at the end of a run, how it ended, the number of instructions executed and
the place where it stopped. -/
structure RunResult where
  registers : RegisterFile
  outcome : Outcome
  steps : Nat
  place : Nat

/-- State between two instructions; the latest event comes first. -/
structure Snapshot where
  place : Nat
  steps : Nat
  registers : RegisterFile
  events : List Event

structure Run where
  events : List Event
  result : Except RunError RunResult

def Run.lines (run : Run) : List String :=
  run.events.filterMap fun
    | .traced line => some line
    | .evaluated _ _ => none

inductive Move where
  | onward (next : Snapshot)
  | ended (events : List Event) (result : Except RunError RunResult)

namespace Machine

/-- Tracing line of an instruction, where it is traced at all. -/
def traceEvents (machine : Machine) (body : Instruction Int) (registers : RegisterFile) :
    Except Violation (List Event) :=
  if machine.settings.traceAll || body.trace then
    (body.traceLine machine.limit registers).map fun line => [.traced line]
  else .ok []

/-- Control passes to `target` after the instruction at `snapshot.place`. -/
def arrive (machine : Machine) (snapshot : Snapshot) (body : Instruction Int)
    (target : Int) (registers : RegisterFile) (events : List Event) : Move :=
  let size := machine.cells.length
  if 0 ≤ target ∧ target < size then
    .onward ⟨target.toNat, snapshot.steps + 1, registers, events⟩
  else
    .ended events <| .error <|
      match checkNumerals machine.limit [target] with
      | .ok () => .outOfBounds snapshot.place body.line body.text target size
      | .error cause => .violation cause

def execute (machine : Machine) (snapshot : Snapshot) (body : Instruction Int) : Move :=
  match machine.traceEvents body snapshot.registers with
  | .error cause => .ended snapshot.events (.error (.violation cause))
  | .ok traced =>
      let events := traced ++ snapshot.events
      match body.operation.effect machine.limit snapshot.place snapshot.registers with
      | .error failure =>
          .ended events (.error (.evalFailed snapshot.place body.line body.text failure))
      | .ok (.halt reason) =>
          .ended events (.ok
            ⟨snapshot.registers, .halted reason, snapshot.steps + 1, snapshot.place⟩)
      | .ok (.jump target registers computed) =>
          machine.arrive snapshot body target registers (computed ++ events)

/-- Only an empty program has no cell at the place a run has reached. -/
def step (machine : Machine) (snapshot : Snapshot) : Move :=
  match machine.cells[snapshot.place]? with
  | none => .ended snapshot.events (.error .emptyProgram)
  | some token =>
      match token.asInstruction with
      | .error cause => .ended snapshot.events (.error (.violation cause))
      | .ok body => machine.execute snapshot body

/-- Goes on for at most `budget` steps. -/
def advance (machine : Machine) : Nat → Snapshot → Run
  | 0, snapshot =>
      ⟨snapshot.events.reverse,
        .ok ⟨snapshot.registers, .budgetExceeded, snapshot.steps, snapshot.place⟩⟩
  | budget + 1, snapshot =>
      match machine.step snapshot with
      | .onward next => machine.advance budget next
      | .ended events result => ⟨events.reverse, result⟩

def run (machine : Machine) (arguments : List Int) : Run :=
  match machine.settings.check with
  | .error cause => ⟨[], .error (.violation cause)⟩
  | .ok () =>
      match RegisterFile.ofArguments machine.limit arguments with
      | .error cause => ⟨[], .error (.violation cause)⟩
      | .ok registers =>
          machine.advance machine.settings.maxSteps.toNat ⟨0, 0, registers, []⟩

end Machine

/-- Runs a linked program. -/
def Program.run (limit : DigitLimit) (settings : Settings) (program : Program)
    (arguments : List Int) : Run :=
  Machine.run ⟨program.tokens, settings, limit⟩ arguments

end CounterMachine
