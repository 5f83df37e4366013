import CounterMachine.Proofs.Machine.Agreement
import CounterMachine.Proofs.Machine.Tracing

/-!
Contract: the lines of a run are those of the traced part of what it executes.

Owns: the form of the line for each kind of instruction; what a program executes within a budget,
apart from any machine; and that the lines of a run are those of the executed instructions that
are traced, one each and in order, however the run ends.

Does not own: runs under a limit on digits, in which a line may be too long to be made.

## Why the flags do not change what is executed

What is executed is said by the meaning of the program, in which neither flags nor lines occur.
So a run that traces everything and one that traces flagged instructions only are compared with
one and the same list.
-/

set_option autoImplicit false

namespace CounterMachine

open Text

/-! ## Lines -/

/-- The line that traces an instruction on these registers, which are those before its effect. -/
inductive Instruction.TracedAs (body : Instruction Int) (before : Store) : String → Prop where
  | init {register : String} {value : Int} (operation : body.operation = .init register value) :
      TracedAs body before
        ("line " ++ decimal body.line ++ ": Initialising: " ++ register ++ " with " ++
          decimal value)
  | counts {register : String} (counts : body.operation.Counts register) :
      TracedAs body before
        ("line " ++ decimal body.line ++ ": " ++ body.text ++ " was " ++
          decimal (before.value register))
  | halt {reason : String} (operation : body.operation = .halt reason) :
      TracedAs body before ("line " ++ decimal body.line ++ ": Halting: " ++ reason)
  | eval {description register code : String}
      (operation : body.operation = .eval description register code) :
      TracedAs body before
        ("line " ++ decimal body.line ++ ": " ++ register ++ " ::= " ++ description)

/-- Every instruction has a line, whatever the registers hold. -/
theorem Instruction.exists_tracedAs (body : Instruction Int) (before : Store) :
    ∃ line, body.TracedAs before line := by
  cases operation : body.operation with
  | init register value => exact ⟨_, .init operation⟩
  | inc register next =>
      have counts : body.operation.Counts register := by
        rw [operation]
        exact .inc next
      exact ⟨_, .counts counts⟩
  | dec register onPositive onZero =>
      have counts : body.operation.Counts register := by
        rw [operation]
        exact .dec onPositive onZero
      exact ⟨_, .counts counts⟩
  | halt reason => exact ⟨_, .halt operation⟩
  | eval description register code => exact ⟨_, .eval operation⟩

theorem Instruction.TracedAs.eq_traceText {body : Instruction Int} {registers : RegisterFile}
    {line : String} (tracedAs : body.TracedAs registers.store line) :
    line = body.traceText registers := by
  unfold traceText
  cases tracedAs with
  | init operation =>
      have joined : ": Initialising: " = ": " ++ "Initialising: " := rfl
      rw [joined]
      simp only [operation, String.append_assoc]
  | halt operation =>
      have joined : ": Halting: " = ": " ++ "Halting: " := rfl
      rw [joined]
      simp only [operation, String.append_assoc]
  | eval operation => simp only [operation, String.append_assoc]
  | counts counts =>
      generalize body.operation = operation at counts ⊢
      cases counts with
      | inc next => simp only [String.append_assoc, RegisterFile.value_store]
      | dec onPositive onZero => simp only [String.append_assoc, RegisterFile.value_store]

/-! ## What a program executes -/

/-- An executed instruction, the registers before it, and the line that traces it. -/
structure Occurrence where
  body : Instruction Int
  before : Store
  line : String
  tracedAs : body.TracedAs before line

/-- The instruction at the place is executed on the registers of the configuration. -/
structure Occurrence.At (occurrence : Occurrence) (program : Program)
    (configuration : Configuration) : Prop where
  found : program[configuration.place]? = some occurrence.body
  before : occurrence.before = configuration.registers

/-- From the configuration on and within the budget, the program executes these instructions in
this order. Nothing is executed at a place that holds no instruction. -/
inductive Configuration.Executes (program : Program) :
    Nat → Configuration → List Occurrence → Prop where
  | exhausted (configuration : Configuration) : Executes program 0 configuration []
  | absent {budget : Nat} {configuration : Configuration}
      (absent : program[configuration.place]? = none) :
      Executes program (budget + 1) configuration []
  | last {budget : Nat} {configuration : Configuration} {occurrence : Occurrence}
      (here : occurrence.At program configuration) (ends : configuration.Ends program) :
      Executes program (budget + 1) configuration [occurrence]
  | goesOn {budget : Nat} {configuration next : Configuration} {occurrence : Occurrence}
      {later : List Occurrence} (here : occurrence.At program configuration)
      (moved : configuration.Step program next) (rest : Executes program budget next later) :
      Executes program (budget + 1) configuration (occurrence :: later)

theorem Occurrence.exists_at {program : Program} {configuration : Configuration}
    {body : Instruction Int} (found : program[configuration.place]? = some body) :
    ∃ occurrence : Occurrence, occurrence.At program configuration := by
  obtain ⟨line, tracedAs⟩ := body.exists_tracedAs configuration.registers
  exact ⟨⟨body, configuration.registers, line, tracedAs⟩, found, rfl⟩

/-- By induction on the budget: each instruction either goes on or ends the run. -/
theorem Configuration.exists_executes (program : Program) (budget : Nat)
    (configuration : Configuration) :
    ∃ executed, Executes program budget configuration executed := by
  induction budget generalizing configuration with
  | zero => exact ⟨[], .exhausted configuration⟩
  | succ budget inductionHypothesis =>
      cases found : program[configuration.place]? with
      | none => exact ⟨[], .absent found⟩
      | some body =>
          obtain ⟨occurrence, here⟩ := Occurrence.exists_at found
          obtain ⟨inside, -⟩ := List.getElem?_eq_some_iff.mp found
          rcases step_or_ends inside with ⟨next, moved⟩ | ends
          · obtain ⟨later, rest⟩ := inductionHypothesis next
            exact ⟨_, .goesOn here moved rest⟩
          · exact ⟨_, .last here ends⟩

/-! ## Lines of a step -/

def Event.line? : Event → Option String
  | .traced line => some line
  | .evaluated _ _ => none

/-- The lines among events of which the latest comes first, in the order in which they came. -/
def linesSeen (events : List Event) : List String :=
  events.reverse.filterMap Event.line?

theorem linesSeen_append (later earlier : List Event) :
    linesSeen (later ++ earlier) = linesSeen earlier ++ linesSeen later := by
  rw [linesSeen, List.reverse_append, List.filterMap_append]
  rfl

/-- What has been seen when the move is made, the latest event first. -/
def Move.events : Move → List Event
  | .onward next => next.events
  | .ended events _ => events

/-- An effect has no line of its own. -/
theorem Operation.linesSeen_of_effect {operation : Operation Int} {limit : DigitLimit}
    {index : Nat} {registers changed : RegisterFile} {target : Int} {computed : List Event}
    (effect : operation.effect limit index registers = .ok (.jump target changed computed)) :
    linesSeen computed = [] := by
  cases operation with
  | init register value =>
      cases effect
      rfl
  | inc register next =>
      cases effect
      rfl
  | dec register onPositive onZero =>
      simp only [Operation.effect] at effect
      split at effect
      · cases effect
        rfl
      · cases effect
        rfl
  | halt reason => cases effect
  | eval description register code =>
      simp only [Operation.effect] at effect
      split at effect
      · cases effect
        rfl
      · cases effect

section Steps

variable {machine : Machine} {snapshot : Snapshot} {body : Instruction Int}

@[simp]
theorem Machine.arrive_events (target : Int) (registers : RegisterFile) (events : List Event) :
    (machine.arrive snapshot body target registers events).events = events := by
  by_cases inside : 0 ≤ target ∧ target < machine.cells.length
  · simp only [arrive, if_pos inside, Move.events]
  · simp only [arrive, if_neg inside, Move.events]

/-- Whatever an instruction does, the lines that trace it are all that it adds to the lines. -/
theorem Machine.linesSeen_execute {traced : List Event}
    (tracing : machine.traceEvents body snapshot.registers = .ok traced) :
    linesSeen (machine.execute snapshot body).events =
      linesSeen snapshot.events ++ linesSeen traced := by
  simp only [execute, tracing]
  cases effect : body.operation.effect machine.limit snapshot.place snapshot.registers with
  | error failure => exact linesSeen_append traced snapshot.events
  | ok control =>
      cases control with
      | halt reason => exact linesSeen_append traced snapshot.events
      | jump target changed computed =>
          rw [arrive_events, linesSeen_append, Operation.linesSeen_of_effect effect,
            List.append_nil, linesSeen_append]

end Steps

/-- The lines of the occurrences that are traced under the settings. -/
def Settings.traced (settings : Settings) (executed : List Occurrence) : List String :=
  (executed.filter fun occurrence => settings.traceAll || occurrence.body.trace).map
    Occurrence.line

theorem Settings.traced_cons (settings : Settings) (occurrence : Occurrence)
    (later : List Occurrence) :
    settings.traced (occurrence :: later) =
      settings.traced [occurrence] ++ settings.traced later := by
  simp only [traced, ← List.map_append, ← List.filter_append, List.singleton_append]

/-- A step at which an instruction is executed adds its line, if it is traced. -/
theorem Occurrence.At.linesSeen_step {occurrence : Occurrence} {program : Program}
    {snapshot : Snapshot} (here : occurrence.At program snapshot.configuration)
    (settings : Settings) :
    linesSeen ((program.machine settings).step snapshot).events =
      linesSeen snapshot.events ++ settings.traced [occurrence] := by
  obtain ⟨body, before, line, tracedAs⟩ := occurrence
  obtain ⟨found, rfl⟩ := here
  have found : program[snapshot.place]? = some body := found
  rw [Machine.step_of_cells _ rfl, found]
  refine (Machine.linesSeen_execute (program.traceEvents_machine settings body _)).trans ?_
  rw [← tracedAs.eq_traceText]
  simp only [Settings.traced, List.filter_cons, List.filter_nil]
  split
  · rfl
  · rfl

/-! ## Lines of a run -/

/-- By induction on what is executed, each occurrence being one step of the machine. -/
theorem Configuration.Executes.lines_advance {program : Program} {budget : Nat}
    {configuration : Configuration} {executed : List Occurrence}
    (executes : configuration.Executes program budget executed) (settings : Settings)
    {snapshot : Snapshot} (represents : snapshot.configuration = configuration) :
    ((program.machine settings).advance budget snapshot).lines =
      linesSeen snapshot.events ++ settings.traced executed := by
  induction executes generalizing snapshot with
  | exhausted configuration => exact (List.append_nil _).symm
  | absent absent =>
      subst represents
      have absent : program[snapshot.place]? = none := absent
      rw [Machine.advance, Machine.step_of_cells _ rfl, absent]
      exact (List.append_nil _).symm
  | last here ends =>
      subst represents
      have added := here.linesSeen_step settings
      obtain ⟨events, result, ended⟩ := ends.exists_ended settings
      rw [ended] at added
      rw [Machine.advance, ended]
      exact added
  | goesOn here moved rest inductionHypothesis =>
      subst represents
      have added := here.linesSeen_step settings
      obtain ⟨next, onward, represents⟩ := moved.exists_onward settings
      rw [onward] at added
      -- What the machine has seen when it goes on ends with the line of this instruction.
      rw [Machine.advance, onward, Settings.traced_cons, ← List.append_assoc, ← added]
      exact inductionHypothesis represents

/-- The lines of a run are those of what its program executes within the budget, as far as it is
traced. -/
theorem Configuration.Executes.lines_run {program : Program} {arguments : List Int}
    {budget : Int} {executed : List Occurrence}
    (executes : (Configuration.start arguments).Executes program budget.toNat executed)
    (natural : ∀ value ∈ arguments, 0 ≤ value) (traceAll : Bool) :
    (program.run .unlimited ⟨budget, traceAll⟩ arguments).lines =
      Settings.traced ⟨budget, traceAll⟩ executed := by
  by_cases positive : 1 ≤ budget
  · obtain ⟨budget, rfl⟩ := Int.eq_ofNat_of_zero_le (Int.le_of_lt positive)
    obtain ⟨registers, represents, runEq⟩ :=
      program.exists_run_eq traceAll natural (Int.ofNat_le.mp positive)
    rw [runEq]
    exact executes.lines_advance ⟨budget, traceAll⟩ represents
  · have noBudget : budget ≤ 0 := by omega
    rw [Int.toNat_of_nonpos noBudget] at executes
    rw [program.run_eq_of_budget_not_positive .unlimited arguments traceAll noBudget]
    cases executes
    rfl

/-- A run that traces everything shows a line for each instruction that the program executes
within the budget, in order and however the run ends. A run that does not shows those of them that
belong to flagged instructions. -/
theorem run_traces_executions (program : Program) {arguments : List Int}
    (natural : ∀ value ∈ arguments, 0 ≤ value) (budget : Int) :
    let start := Configuration.start arguments
    let all := (program.run .unlimited ⟨budget, true⟩ arguments).lines
    let flagged := (program.run .unlimited ⟨budget, false⟩ arguments).lines
    (∃ executed, start.Executes program budget.toNat executed) ∧
      (∀ executed, start.Executes program budget.toNat executed →
        all = executed.map Occurrence.line ∧
          flagged = (executed.filter fun occurrence => occurrence.body.trace).map
            Occurrence.line) ∧
      flagged.Sublist all := by
  intro start all flagged
  have lines : ∀ executed, start.Executes program budget.toNat executed →
      all = executed.map Occurrence.line ∧
        flagged = (executed.filter fun occurrence => occurrence.body.trace).map
          Occurrence.line := by
    intro executed executes
    refine ⟨?_, executes.lines_run natural false⟩
    have everything := executes.lines_run natural true
    rw [Settings.traced] at everything
    simpa using everything
  obtain ⟨executed, executes⟩ := Configuration.exists_executes program budget.toNat start
  obtain ⟨allLines, flaggedLines⟩ := lines executed executes
  refine ⟨⟨executed, executes⟩, lines, ?_⟩
  rw [allLines, flaggedLines]
  exact List.filter_sublist.map Occurrence.line

/-- Counts up, counts down and divides by zero; the instruction in the middle is not flagged. -/
def faltering : Program :=
  [⟨.inc "r0" 1, "r0+", 1, true, none⟩, ⟨.dec "r1" 0 2, "r1- -> 0, next", 2, false, none⟩,
    ⟨.eval "quotient" "r2" "r0 // r1", "", 3, true, none⟩]

/-- Three instructions are executed from three on, and the last of them fails after its line has
been shown. -/
theorem run_traces_executions_faltering :
    (∀ value ∈ [(3 : Int)], 0 ≤ value) ∧
      (∃ error, (faltering.run .unlimited ⟨9, false⟩ [3]).result = .error error) ∧
      ∃ executed, (Configuration.start [3]).Executes faltering 9 executed ∧
        executed.map Occurrence.line =
          ["line 1: r0+ was 3", "line 2: r1- -> 0, next was 0", "line 3: r2 ::= quotient"] ∧
        (executed.filter fun occurrence => occurrence.body.trace).map Occurrence.line =
          ["line 1: r0+ was 3", "line 3: r2 ::= quotient"] := by
  have natural : ∀ value ∈ [(3 : Int)], 0 ≤ value := by decide
  obtain ⟨⟨executed, executes⟩, lines, -⟩ := run_traces_executions faltering natural 9
  obtain ⟨all, flagged⟩ := lines executed executes
  exact ⟨natural, ⟨_, rfl⟩, executed, executes, all.symm, flagged.symm⟩

end CounterMachine
