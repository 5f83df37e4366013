import CounterMachine.Proofs.Machine.Budget
import CounterMachine.Proofs.Machine.Lockstep
import CounterMachine.Proofs.Machine.Refinement
import CounterMachine.Proofs.Source.Bounds

/-!
Contract: what tracing changes about the result of a run.

Owns: the variants of a program that differ in trace flags, and when the result of a traced run
is that of the run in which nothing is traced.

Does not own: the lines that are traced. A run has the same result whether they are read or not.

## The one way in which tracing shows

The line of an instruction that counts a register shows the value of that register, and it is
made before the register is counted. A value of more digits than may be written ends the run
there. Initial values are literals, which are never that long.
-/

set_option autoImplicit false

namespace CounterMachine

open Text

def Instruction.flagged (body : Instruction Int) (flag : Bool) : Instruction Int :=
  { body with trace := flag }

/-- The program with the trace flags of its instructions set anew. -/
def Program.flagged (program : Program) (flags : Nat → Bool) : Program :=
  program.mapIdx fun index body => body.flagged (flags index)

/-- The machine that runs a program with the flags. -/
def Program.tracing (program : Program) (flags : Nat → Bool) (settings : Settings)
    (limit : DigitLimit) : Machine :=
  ⟨(program.flagged flags).tokens, settings, limit⟩

/-- The machine that runs the program and traces nothing. -/
def Program.quiet (program : Program) (limit : DigitLimit) : Machine :=
  program.tracing (fun _ => false) {} limit

/-- The operation counts the register up or down. -/
inductive Operation.Counts (register : String) : Operation Int → Prop where
  | inc (next : Int) : Counts register (.inc register next)
  | dec (onPositive onZero : Int) : Counts register (.dec register onPositive onZero)

/-- The instruction at the place is traced, and counts a register whose value is too long to be
written. -/
def Snapshot.Hindered (limit : DigitLimit) (program : Program) (traced : Nat → Bool)
    (snapshot : Snapshot) : Prop :=
  ∃ body register, program[snapshot.place]? = some body ∧ traced snapshot.place = true ∧
    body.operation.Counts register ∧ limit.fits (snapshot.registers.value register) = false

/-- The initial values of the program are short enough to be written. -/
def Program.InitialsFit (limit : DigitLimit) (program : Program) : Prop :=
  ∀ body ∈ program, ∀ register value, body.operation = .init register value →
    limit.fits value = true

/-! ## Tracing lines -/

variable {program : Program} {bound : Nat}

theorem Program.length_flagged (program : Program) (flags : Nat → Bool) :
    (program.flagged flags).length = program.length :=
  List.length_mapIdx

theorem Program.flagged_getElem? (program : Program) (flags : Nat → Bool) (place : Nat) :
    (program.flagged flags)[place]? =
      program[place]?.map fun body => body.flagged (flags place) := by
  rw [flagged, List.getElem?_mapIdx]

/-- By cases on the operation: only counting shows a value that a run has come to. -/
theorem Instruction.exists_overlong_iff {limit : DigitLimit} {body : Instruction Int}
    (initial : ∀ register value, body.operation = .init register value →
      limit.fits value = true) (registers : RegisterFile) :
    (∃ number ∈ body.tracedNumbers registers, limit.fits number = false) ↔
      ∃ register, body.operation.Counts register ∧
        limit.fits (registers.value register) = false := by
  unfold tracedNumbers
  cases operation : body.operation with
  | init register value =>
      have fitting := initial register value operation
      constructor
      · rintro ⟨number, member, overlong⟩
        rw [List.mem_singleton.mp member, fitting] at overlong
        cases overlong
      · rintro ⟨_, counts, -⟩
        cases counts
  | inc register next =>
      constructor
      · rintro ⟨number, member, overlong⟩
        rw [List.mem_singleton.mp member] at overlong
        exact ⟨register, .inc next, overlong⟩
      · rintro ⟨_, counts, overlong⟩
        cases counts
        exact ⟨_, List.mem_cons_self, overlong⟩
  | dec register onPositive onZero =>
      constructor
      · rintro ⟨number, member, overlong⟩
        rw [List.mem_singleton.mp member] at overlong
        exact ⟨register, .dec onPositive onZero, overlong⟩
      · rintro ⟨_, counts, overlong⟩
        cases counts
        exact ⟨_, List.mem_cons_self, overlong⟩
  | halt reason =>
      constructor
      · rintro ⟨number, member, -⟩
        cases member
      · rintro ⟨_, counts, -⟩
        cases counts
  | eval description register code =>
      constructor
      · rintro ⟨number, member, -⟩
        cases member
      · rintro ⟨_, counts, -⟩
        cases counts

/-- An instruction has a line unless it is traced and one of its numbers is too long. -/
theorem Machine.traceEvents_cases (machine : Machine) (limit : machine.limit = .atMost bound)
    (body : Instruction Int) (registers : RegisterFile) :
    (∃ events, machine.traceEvents body registers = .ok events ∧
      ¬ ((machine.settings.traceAll || body.trace) = true ∧
        ∃ number ∈ body.tracedNumbers registers, machine.limit.fits number = false)) ∨
    (machine.traceEvents body registers = .error (.numeralTooLong bound) ∧
      (machine.settings.traceAll || body.trace) = true ∧
        ∃ number ∈ body.tracedNumbers registers, machine.limit.fits number = false) := by
  unfold traceEvents
  by_cases traced : (machine.settings.traceAll || body.trace) = true
  · rw [if_pos traced]
    unfold Instruction.traceLine
    rw [limit]
    cases checked : checkNumerals (.atMost bound) (body.tracedNumbers registers) with
    | ok _ =>
        refine .inl ⟨_, rfl, ?_⟩
        rintro ⟨-, overlong⟩
        rw [checkNumerals_atMost_eq_error_iff.mpr ⟨overlong, rfl⟩] at checked
        cases checked
    | error cause =>
        obtain ⟨overlong, rfl⟩ := checkNumerals_atMost_eq_error_iff.mp checked
        exact .inr ⟨rfl, traced, overlong⟩
  · rw [if_neg traced]
    exact .inl ⟨[], rfl, fun both => traced both.1⟩

theorem Snapshot.hindered_iff {limit : DigitLimit} {traced : Nat → Bool} {snapshot : Snapshot}
    {body : Instruction Int} (fit : program.InitialsFit limit)
    (found : program[snapshot.place]? = some body) :
    snapshot.Hindered limit program traced ↔
      traced snapshot.place = true ∧
        ∃ number ∈ body.tracedNumbers snapshot.registers, limit.fits number = false := by
  rw [Instruction.exists_overlong_iff (fit body (List.mem_of_getElem? found))]
  constructor
  · rintro ⟨known, register, foundKnown, isTraced, counts, overlong⟩
    cases found.symm.trans foundKnown
    exact ⟨isTraced, register, counts, overlong⟩
  · rintro ⟨isTraced, register, counts, overlong⟩
    exact ⟨body, register, found, isTraced, counts, overlong⟩

/-! ## Steps -/

section Steps

variable {flags : Nat → Bool} {settings : Settings} {snapshot other : Snapshot}

/-- The cells of the machine hold the instructions of the program with the flags. -/
private theorem step_of_found {body : Instruction Int} {limit : DigitLimit}
    (found : program[snapshot.place]? = some body) :
    (program.tracing flags settings limit).step snapshot =
      (program.tracing flags settings limit).execute snapshot
        (body.flagged (flags snapshot.place)) := by
  rw [Machine.step_of_cells _ rfl, Program.flagged_getElem?, found]
  rfl

private theorem step_of_hindered (fit : program.InitialsFit (.atMost bound))
    (hindered : snapshot.Hindered (.atMost bound) program
      fun place => settings.traceAll || flags place) :
    (program.tracing flags settings (.atMost bound)).step snapshot =
      .ended snapshot.events (.error (.violation (.numeralTooLong bound))) := by
  have ⟨body, _, found, _⟩ := hindered
  have overlong := (Snapshot.hindered_iff fit found).mp hindered
  rcases (program.tracing flags settings (.atMost bound)).traceEvents_cases rfl
      (body.flagged (flags snapshot.place)) snapshot.registers with
    ⟨events, -, free⟩ | ⟨refused, -⟩
  · exact absurd overlong free
  · rw [step_of_found found, Machine.execute, refused]

private theorem step_of_not_hindered (fit : program.InitialsFit (.atMost bound))
    (alike : snapshot.Alike other)
    (free : ¬ snapshot.Hindered (.atMost bound) program
      fun place => settings.traceAll || flags place) :
    (∃ next otherNext,
      (program.tracing flags settings (.atMost bound)).step snapshot = .onward next ∧
      (program.quiet (.atMost bound)).step other = .onward otherNext ∧ next.Alike otherNext) ∨
    ∃ events otherEvents result,
      (program.tracing flags settings (.atMost bound)).step snapshot = .ended events result ∧
      (program.quiet (.atMost bound)).step other = .ended otherEvents result := by
  cases found : program[snapshot.place]? with
  | none =>
      have absent : program[other.place]? = none := alike.place ▸ found
      refine .inr ⟨snapshot.events, other.events, .error .emptyProgram, ?_, ?_⟩
      · rw [Machine.step_of_cells _ rfl, Program.flagged_getElem?, found]
        rfl
      · rw [Machine.step_of_cells _ rfl, Program.flagged_getElem?, absent]
        rfl
  | some body =>
      have otherFound : program[other.place]? = some body := alike.place ▸ found
      rcases (program.tracing flags settings (.atMost bound)).traceEvents_cases rfl
          (body.flagged (flags snapshot.place)) snapshot.registers with
        ⟨events, traced, -⟩ | ⟨-, overlong⟩
      · have size : (program.tracing flags settings (.atMost bound)).cells.length =
            (program.quiet (.atMost bound)).cells.length := by
          rw [Program.quiet, Program.tracing, Program.tracing, Program.length_tokens,
            Program.length_tokens, Program.length_flagged, Program.length_flagged]
        have untraced : (program.quiet (.atMost bound)).traceEvents (body.flagged false)
            other.registers = .ok [] := rfl
        have action : (body.flagged (flags snapshot.place)).operation.action =
            (body.flagged false).operation.action := rfl
        have same := Machine.execute_same (program.tracing flags settings (.atMost bound))
          (program.quiet (.atMost bound)) rfl size alike action traced untraced
        have quietStep : (program.quiet (.atMost bound)).step other =
            (program.quiet (.atMost bound)).execute other (body.flagged false) :=
          step_of_found otherFound
        rw [← step_of_found found, ← quietStep] at same
        generalize (program.tracing flags settings (.atMost bound)).step snapshot = move at same ⊢
        generalize (program.quiet (.atMost bound)).step other = otherMove at same ⊢
        cases same with
        | onward alike => exact .inl ⟨_, _, rfl, rfl, alike⟩
        | halt operation otherOperation =>
            cases operation.symm.trans otherOperation
            exact .inr ⟨_, _, _, rfl, rfl⟩
        | fail => exact .inr ⟨_, _, _, rfl, rfl⟩
        | leave => exact .inr ⟨_, _, _, rfl, rfl⟩
        | leaveUnwritten unwritten => exact .inr ⟨_, _, _, rfl, rfl⟩
      · exact absurd ((Snapshot.hindered_iff fit found).mpr overlong) free

end Steps

/-! ## Runs -/

/-- Within the budget the machine comes to a snapshot with the property. -/
def Machine.Meets (machine : Machine) (holds : Snapshot → Prop) (budget : Nat)
    (first : Snapshot) : Prop :=
  ∃ count last, count < budget ∧ machine.Onward count first last ∧ holds last

theorem Machine.meets_succ_iff {machine : Machine} {holds : Snapshot → Prop} {budget : Nat}
    {first : Snapshot} :
    machine.Meets holds (budget + 1) first ↔
      holds first ∨ ∃ next, machine.step first = .onward next ∧
        machine.Meets holds budget next := by
  constructor
  · rintro ⟨count, last, below, onward, holdsLast⟩
    cases onward with
    | refl => exact .inl holdsLast
    | @step count _ next _ moved later =>
        exact .inr ⟨next, moved, count, last, Nat.lt_of_succ_lt_succ below, later, holdsLast⟩
  · rintro (here | ⟨next, moved, count, last, below, onward, holdsLast⟩)
    · exact ⟨0, first, Nat.succ_pos budget, .refl first, here⟩
    · exact ⟨count + 1, last, Nat.succ_lt_succ below, .step moved onward, holdsLast⟩

/-- By induction on the budget. Where the quiet machine meets no hindrance, the steps are the
same; where it does, the other machine has come to the same place. -/
private theorem advance_tracing (fit : program.InitialsFit (.atMost bound))
    (flags : Nat → Bool) (settings : Settings) (budget : Nat) {snapshot other : Snapshot}
    (alike : snapshot.Alike other) :
    let machine := program.tracing flags settings (.atMost bound)
    let quiet := program.quiet (.atMost bound)
    let hindered := Snapshot.Hindered (.atMost bound) program
      fun place => settings.traceAll || flags place
    (quiet.Meets hindered budget other →
      (machine.advance budget snapshot).result =
        .error (.violation (.numeralTooLong bound))) ∧
    (¬ quiet.Meets hindered budget other →
      (machine.advance budget snapshot).result = (quiet.advance budget other).result) := by
  intro machine quiet hindered
  induction budget generalizing snapshot other with
  | zero =>
      constructor
      · rintro ⟨count, last, below, -⟩
        exact absurd below (Nat.not_lt_zero count)
      · intro _
        obtain ⟨place, steps, registers⟩ := alike
        rw [Machine.advance, Machine.advance, place, steps, registers]
  | succ budget inductionHypothesis =>
      have sameHindrance : hindered snapshot ↔ hindered other := by
        simp only [hindered, Snapshot.Hindered, alike.place, alike.registers]
      rw [Machine.meets_succ_iff, Machine.advance, Machine.advance]
      by_cases here : hindered other
      · rw [step_of_hindered fit (sameHindrance.mpr here)]
        exact ⟨fun _ => rfl, fun none => absurd (.inl here) none⟩
      · rcases step_of_not_hindered fit alike (mt sameHindrance.mp here) with
          ⟨next, otherNext, moved, otherMoved, nextAlike⟩ |
            ⟨events, otherEvents, result, ended, otherEnded⟩
        · have later := inductionHypothesis nextAlike
          rw [moved, otherMoved]
          refine ⟨?_, ?_⟩
          · rintro (impossible | ⟨_, same, meets⟩)
            · exact absurd impossible here
            · cases same
              exact later.1 meets
          · intro none
            exact later.2 fun meets => none (.inr ⟨otherNext, rfl, meets⟩)
        · rw [ended, otherEnded]
          refine ⟨?_, fun _ => rfl⟩
          rintro (impossible | ⟨_, moved, _⟩)
          · exact absurd impossible here
          · cases moved

/-- Runs with the flags and without them, from the arguments in the numbered registers. -/
private theorem exists_run_tracing (fit : program.InitialsFit (.atMost bound))
    {arguments : List Int} (natural : ∀ value ∈ arguments, 0 ≤ value) {budget : Nat}
    (positive : 1 ≤ budget) (flags : Nat → Bool) (traceAll : Bool) :
    let quiet := ((program.flagged fun _ => false).run (.atMost bound) ⟨budget, false⟩
      arguments).result
    let traced := ((program.flagged flags).run (.atMost bound) ⟨budget, traceAll⟩ arguments).result
    ∃ registers, RegisterFile.ofArguments (.atMost bound) arguments = .ok registers ∧
      let meets := (program.quiet (.atMost bound)).Meets
        (Snapshot.Hindered (.atMost bound) program fun place => traceAll || flags place) budget
        ⟨0, 0, registers, []⟩
      (meets → traced = .error (.violation (.numeralTooLong bound))) ∧
        (¬ meets → traced = quiet) := by
  intro quiet traced
  obtain ⟨registers, accepted, -⟩ := RegisterFile.ofArguments_eq_ok (.atMost bound) natural
  have quietEq : quiet =
      ((program.quiet (.atMost bound)).advance budget ⟨0, 0, registers, []⟩).result := by
    simp only [quiet]
    rw [Program.run_eq (.atMost bound) false _ arguments positive 1000, accepted]
    rfl
  have tracedEq : traced = ((program.tracing flags ⟨budget, traceAll⟩ (.atMost bound)).advance
      budget ⟨0, 0, registers, []⟩).result := by
    simp only [traced]
    rw [Program.run_eq (.atMost bound) traceAll _ arguments positive budget, accepted]
    rfl
  rw [quietEq, tracedEq]
  exact ⟨registers, accepted, advance_tracing fit flags ⟨budget, traceAll⟩ budget ⟨rfl, rfl, rfl⟩⟩

private theorem initialsFit_of_compile {source file : String}
    (compiled : compile .standard source file = .ok program) :
    program.InitialsFit .standard :=
  fun _ member => (fits_of_compile DigitLimit.standard_fits_one compiled member).1

/-- A run has the same result with any trace flags as without tracing, unless an instruction is
executed that is traced and counts a register whose value has more digits than may be written.
There the traced run ends with a violation, and the other one goes on. -/
theorem run_flagged_eq_iff {source file : String}
    (compiled : compile .standard source file = .ok program) {arguments : List Int}
    (natural : ∀ value ∈ arguments, 0 ≤ value) {budget : Nat} (positive : 1 ≤ budget)
    (flags : Nat → Bool) (traceAll : Bool) :
    let quiet := ((program.flagged fun _ => false).run .standard ⟨budget, false⟩ arguments).result
    let traced := ((program.flagged flags).run .standard ⟨budget, traceAll⟩ arguments).result
    let overlong := Except.error (RunError.violation (.numeralTooLong 4300))
    ∃ registers, RegisterFile.ofArguments .standard arguments = .ok registers ∧
      (traced = quiet ↔ quiet = overlong ∨
        ¬ (program.quiet .standard).Meets
          (Snapshot.Hindered .standard program fun place => traceAll || flags place) budget
          ⟨0, 0, registers, []⟩) ∧
      (traced ≠ quiet → traced = overlong) := by
  intro quiet traced overlong
  obtain ⟨registers, accepted, hindered, free⟩ :=
    exists_run_tracing (initialsFit_of_compile compiled) natural positive flags traceAll
  refine ⟨registers, accepted, ?_, ?_⟩
  · constructor
    · intro same
      by_contra neither
      obtain ⟨notOverlong, meets⟩ := not_or.mp neither
      exact notOverlong (same.symm.trans (hindered (not_not.mp meets)))
    · rintro (quietOverlong | none)
      · by_contra different
        exact different ((hindered (not_not.mp (mt free different))).trans quietOverlong.symm)
      · exact free none
  · intro different
    exact hindered (not_not.mp (mt free different))

/-- Counts the first register up for ever. -/
def counting : Program :=
  [⟨.inc "r0" 0, "r0+ -> 0", 1, false, none⟩]

/-- A short register can be counted under any flags. -/
theorem run_flagged_eq_short :
    compile .standard "r0+ -> 0" = .ok counting ∧ (∀ value ∈ [(7 : Int)], 0 ≤ value) ∧ 1 ≤ 1 ∧
      ((counting.flagged fun _ => true).run .standard ⟨(1 : Nat), true⟩ [7]).result =
        ((counting.flagged fun _ => false).run .standard ⟨(1 : Nat), false⟩ [7]).result := by
  have compiled : compile .standard "r0+ -> 0" = .ok counting := by decide +kernel
  have natural : ∀ value ∈ [(7 : Int)], 0 ≤ value := by decide
  have positive : 1 ≤ 1 := Nat.le_refl 1
  obtain ⟨registers, accepted, same, -⟩ :=
    run_flagged_eq_iff compiled natural positive (fun _ => true) true
  refine ⟨compiled, natural, positive, same.mpr (.inr ?_)⟩
  rintro ⟨count, last, below, onward, body, register, found, -, counts, overlong⟩
  cases Nat.lt_one_iff.mp below
  cases onward
  cases found
  cases counts
  cases accepted
  exact absurd overlong (by decide +kernel)

private theorem value_of_ofArguments_single {limit : DigitLimit} {registers : RegisterFile}
    {value : Nat} (accepted : RegisterFile.ofArguments limit [(value : Int)] = .ok registers) :
    registers.value "r0" = value := by
  have natural : ∀ number ∈ [(value : Int)], 0 ≤ number := by
    intro number member
    rw [List.mem_singleton.mp member]
    exact Int.natCast_nonneg value
  obtain ⟨seeded, acceptedAgain, stored⟩ := RegisterFile.ofArguments_eq_ok limit natural
  cases accepted.symm.trans acceptedAgain
  rw [← RegisterFile.value_store, stored]
  rfl

private theorem run_counting {large : Nat} (overlong : DigitLimit.standard.fits large = false) :
    ((counting.flagged fun _ => false).run .standard ⟨(1 : Nat), true⟩ [(large : Int)]).result =
        .error (.violation (.numeralTooLong 4300)) ∧
      ∃ registers,
        ((counting.flagged fun _ => false).run .standard ⟨(1 : Nat), false⟩
          [(large : Int)]).result = .ok ⟨registers, .budgetExceeded, 1, 0⟩ := by
  have compiled : compile .standard "r0+ -> 0" = .ok counting := by decide +kernel
  have positive : 1 ≤ 1 := Nat.le_refl 1
  have natural : ∀ value ∈ [(large : Int)], 0 ≤ value := by
    intro value member
    rw [List.mem_singleton.mp member]
    exact Int.natCast_nonneg large
  constructor
  · obtain ⟨registers, accepted, hindered, -⟩ :=
      exists_run_tracing (initialsFit_of_compile compiled) natural positive (fun _ => false) true
    apply hindered
    refine ⟨0, _, Nat.one_pos, .refl _, _, "r0", rfl, rfl, .inc 0, ?_⟩
    rw [value_of_ofArguments_single accepted]
    exact overlong
  · obtain ⟨registers, accepted, -⟩ := RegisterFile.ofArguments_eq_ok .standard natural
    rw [Program.run_eq .standard false _ _ positive 1000, accepted]
    exact ⟨_, rfl⟩

/-- With a register of 4301 digits, one step is counted where nothing is traced, and none can be
traced. -/
theorem run_flagged_ne_overlong :
    let arguments : List Int := [(Nat.pow 10 4300 : Nat)]
    compile .standard "r0+ -> 0" = .ok counting ∧
      ((counting.flagged fun _ => false).run .standard ⟨(1 : Nat), true⟩ arguments).result =
        .error (.violation (.numeralTooLong 4300)) ∧
      ∃ registers,
        ((counting.flagged fun _ => false).run .standard ⟨(1 : Nat), false⟩ arguments).result =
          .ok ⟨registers, .budgetExceeded, 1, 0⟩ :=
  ⟨by decide +kernel, run_counting (by decide +kernel)⟩

end CounterMachine
