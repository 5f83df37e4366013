import CounterMachine.Numbering.Code
import CounterMachine.Proofs.Listing.Listable
import CounterMachine.Proofs.Machine.Refinement
import CounterMachine.Proofs.Machine.Visits

/-!
Contract: what holds throughout a run.

Owns: that no register ever holds a negative number, that a run fetches instructions inside its
program only, and that it has taken fewer steps than its budget wherever it fetches one; and the
condition on the initial values of a program, which compiled and decoded programs meet.

Does not own: where a run ends.

## Why expressions do no harm

An expression may be negative on its way, and a jump may lead anywhere. Neither shows in a
snapshot, since a negative value is refused before it is written, and a jump outside the program
fails where it is made.
-/

set_option autoImplicit false

namespace CounterMachine

open Text

/-! ## Registers -/

namespace RegisterFile

/-- No recorded value is negative. -/
def Natural (registers : RegisterFile) : Prop :=
  ∀ entry ∈ registers.entries, 0 ≤ entry.2

variable {registers : RegisterFile}

theorem Natural.empty : empty.Natural := by
  intro entry member
  cases member

theorem Natural.value_nonneg (natural : registers.Natural) (name : String) :
    0 ≤ registers.value name := by
  unfold value
  cases found : registers.table.get? name with
  | none => exact Int.le_refl 0
  | some known => exact natural (name, known) (Table.mem_entries_of_get? found)

theorem Natural.write (natural : registers.Natural) (name : String) {value : Int}
    (nonneg : 0 ≤ value) : (registers.write name value).Natural := by
  intro entry member
  rcases Table.mem_entries_insert member with rfl | known
  · exact nonneg
  · exact natural entry known

theorem Natural.touch (natural : registers.Natural) (name : String) :
    (registers.touch name).Natural := by
  unfold RegisterFile.touch
  split
  · exact natural
  · exact natural.write name (Int.le_refl 0)

theorem Natural.of_seedFrom {limit : DigitLimit} {index : Nat} {arguments : List Int}
    {seeded : RegisterFile} (natural : registers.Natural)
    (accepted : seedFrom limit index registers arguments = .ok seeded) : seeded.Natural := by
  induction arguments generalizing index registers with
  | nil =>
      cases accepted
      exact natural
  | cons value later inductionHypothesis =>
      rw [seedFrom] at accepted
      split at accepted
      · next negative =>
        obtain ⟨_, -, impossible⟩ := bind_eq_ok.mp accepted
        cases impossible
      · next notNegative =>
        exact inductionHypothesis (natural.write _ (Int.not_lt.mp notNegative)) accepted

end RegisterFile

/-! ## Operations -/

/-- A negative value is refused. -/
theorem Expression.evaluate_nonneg {limit : DigitLimit} {registers : String → Int}
    {text : String} {value : Int} (evaluated : evaluate limit registers text = .ok value) :
    0 ≤ value := by
  obtain ⟨tree, -, evaluated⟩ := bind_eq_ok.mp evaluated
  obtain ⟨number, -, returned⟩ := bind_eq_ok.mp evaluated
  split at returned
  · cases returned
  · next notNegative =>
    cases returned
    exact Int.not_lt.mp notNegative

/-- An operation that sets a register to a value of its own sets it to a natural number. -/
def Operation.InitialNatural (operation : Operation Int) : Prop :=
  ∀ register value, operation = .init register value → 0 ≤ value

/-- Every initial value in the program is a natural number. -/
def Program.InitialsNatural (program : Program) : Prop :=
  ∀ body ∈ program, body.operation.InitialNatural

/-- By cases on the operation; only a register above zero is counted down. -/
theorem RegisterFile.Natural.of_effect {limit : DigitLimit} {index : Nat}
    {registers changed : RegisterFile} {operation : Operation Int} {target : Int}
    {events : List Event} (natural : registers.Natural) (initial : operation.InitialNatural)
    (effect : operation.effect limit index registers = .ok (.jump target changed events)) :
    changed.Natural := by
  cases operation with
  | init register value =>
      cases effect
      exact natural.write register (initial register value rfl)
  | inc register next =>
      cases effect
      exact natural.write register (Int.add_nonneg (natural.value_nonneg register) Int.one_nonneg)
  | dec register onPositive onZero =>
      simp only [Operation.effect] at effect
      split at effect
      · next positive =>
        cases effect
        exact natural.write register (Int.le_sub_one_of_lt positive)
      · cases effect
        exact natural.touch register
  | halt reason => cases effect
  | eval description register code =>
      simp only [Operation.effect] at effect
      split at effect
      · next value evaluated =>
        cases effect
        exact natural.write register (Expression.evaluate_nonneg evaluated)
      · cases effect

/-! ## Steps and runs -/

/-- The place is inside the program, unless that is empty, and no register is negative. -/
structure Snapshot.Sound (program : Program) (snapshot : Snapshot) : Prop where
  inside : program ≠ [] → snapshot.place < program.length
  natural : snapshot.registers.Natural

section Runs

variable {machine : Machine} {program : Program} {snapshot : Snapshot}

/-- What a step returns is what the registers hold. -/
theorem Snapshot.Sound.of_ended {events : List Event} {result : RunResult}
    (sound : snapshot.Sound program) (ended : machine.step snapshot = .ended events (.ok result)) :
    result.registers.Natural := by
  cases Machine.step_eq_iff.mp ended with
  | halt cell tracing effect => exact sound.natural

variable (cells : machine.cells = program.tokens) (initials : program.InitialsNatural)
include cells initials

/-- A step that goes on keeps the place inside and the registers natural. -/
theorem Snapshot.Sound.of_step {next : Snapshot} (sound : snapshot.Sound program)
    (moved : machine.step snapshot = .onward next) : next.Sound program := by
  cases Machine.step_eq_iff.mp moved with
  | @jump body traced computed target registers cell tracing effect inside =>
      rw [cells, Program.length_tokens] at inside
      rw [cells, Program.tokens_getElem?_eq_some_iff] at cell
      refine ⟨fun _ => (Int.toNat_lt inside.1).mpr inside.2, ?_⟩
      exact sound.natural.of_effect (initials body (List.mem_of_getElem? cell)) effect

theorem Machine.Onward.sound {count : Nat} {first last : Snapshot}
    (onward : machine.Onward count first last) (sound : first.Sound program) :
    last.Sound program :=
  onward.invariant (fun _ _ soundHere => soundHere.of_step cells initials) sound

/-- Every snapshot that a run visits is sound, and has taken fewer steps than the budget. -/
theorem Snapshot.Sound.of_mem_visitsFrom {budget : Nat} {first last : Snapshot}
    (sound : first.Sound program) (member : last ∈ machine.visitsFrom budget first) :
    last.Sound program ∧ last.steps < first.steps + budget := by
  obtain ⟨count, below, onward⟩ := Machine.mem_visitsFrom_iff.mp member
  have steps := onward.steps
  exact ⟨onward.sound cells initials sound, by omega⟩

/-- A run returns the registers of a sound snapshot. -/
theorem Snapshot.Sound.of_advance {budget : Nat} {first : Snapshot} {result : RunResult}
    (sound : first.Sound program) (returned : (machine.advance budget first).result = .ok result) :
    result.registers.Natural := by
  rcases machine.advance_cases budget first with
    ⟨last, onward, exceeded⟩ | ⟨last, member, events, ending, ended, same⟩
  · cases exceeded.symm.trans returned
    exact (onward.sound cells initials sound).natural
  · rw [same.symm.trans returned] at ended
    exact (sound.of_mem_visitsFrom cells initials member).1.of_ended ended

end Runs

/-! ## Programs with natural initial values -/

theorem Program.InitialsNatural.of_compile {limit : DigitLimit} {source file : String}
    {program : Program} (compiled : compile limit source file = .ok program) :
    program.InitialsNatural := by
  intro body member register value initial
  have listable := listable_of_compile compiled body member
  rw [initial] at listable
  exact listable.2

private theorem exists_numbered_of_mem {limit : DigitLimit} {index : Nat} {codes : List Nat}
    {program : Program} (decoded : instructionsFrom limit index codes = .ok program)
    {body : Instruction Int} (member : body ∈ program) :
    ∃ numbered : NumberedOperation, body.operation = numbered.operation := by
  induction codes generalizing index program with
  | nil =>
      cases decoded
      cases member
  | cons code later inductionHypothesis =>
      obtain ⟨first, written, decoded⟩ := bind_eq_ok.mp decoded
      obtain ⟨-, -, decoded⟩ := bind_eq_ok.mp decoded
      obtain ⟨rest, decodedLater, returned⟩ := bind_eq_ok.mp decoded
      obtain ⟨-, -, written⟩ := bind_eq_ok.mp written
      obtain ⟨text, -, instruction⟩ := bind_eq_ok.mp written
      cases instruction
      cases returned
      rcases List.mem_cons.mp member with rfl | inRest
      · exact ⟨.ofCode code, rfl⟩
      · exact inductionHypothesis decodedLater inRest

/-- No number stands for an operation that sets a register. -/
theorem Program.InitialsNatural.of_decode {limit : DigitLimit} {number exponent : Int}
    {program : Program} (decoded : decode limit number exponent = .ok program) :
    program.InitialsNatural := by
  intro body member register value initial
  obtain ⟨codes, -, decodedCodes⟩ := bind_eq_ok.mp decoded
  obtain ⟨numbered, same⟩ := exists_numbered_of_mem (mapError_eq_ok.mp decodedCodes) member
  rw [same] at initial
  cases numbered <;> cases initial

/-! ## The invariant -/

/-- Compiled and decoded programs have natural initial values. Of a program that does, every run
with natural arguments and a budget fetches instructions inside the program only, with natural
registers and budget left, and returns natural registers. -/
theorem run_keeps_sound (limit : DigitLimit) :
    (∀ source file program, compile limit source file = .ok program →
      program.InitialsNatural) ∧
    (∀ number exponent program, decode limit number exponent = .ok program →
      program.InitialsNatural) ∧
    ∀ (program : Program) (settings : Settings) (arguments : List Int),
      program.InitialsNatural → (∀ value ∈ arguments, 0 ≤ value) → 0 < settings.maxSteps →
        (∀ snapshot ∈ program.visits limit settings arguments,
          snapshot.Sound program ∧ snapshot.steps < settings.maxSteps) ∧
        ∀ result, (program.run limit settings arguments).result = .ok result →
          result.registers.Natural := by
  refine ⟨fun _ _ _ => .of_compile, fun _ _ _ => .of_decode, ?_⟩
  intro program settings arguments initials natural positive
  obtain ⟨registers, accepted, -⟩ := RegisterFile.ofArguments_eq_ok limit natural
  have start : Snapshot.Sound program ⟨0, 0, registers, []⟩ :=
    ⟨List.length_pos_iff.mpr, RegisterFile.Natural.of_seedFrom .empty accepted⟩
  let machine : Machine := ⟨program.tokens, settings, limit⟩
  have cells : machine.cells = program.tokens := rfl
  have visited : program.visits limit settings arguments =
      machine.visitsFrom settings.maxSteps.toNat ⟨0, 0, registers, []⟩ :=
    machine.visits_eq_visitsFrom positive accepted
  have ran : program.run limit settings arguments =
      machine.advance settings.maxSteps.toNat ⟨0, 0, registers, []⟩ :=
    machine.run_eq_advance positive accepted
  constructor
  · intro snapshot member
    rw [visited] at member
    obtain ⟨sound, below⟩ := start.of_mem_visitsFrom cells initials member
    rw [Nat.zero_add] at below
    exact ⟨sound, by omega⟩
  · intro result returned
    rw [ran] at returned
    exact start.of_advance cells initials returned

/-- Sets one register and counts another down. -/
def seeding : Program :=
  [⟨.init "r1" 2, "init r1 2", 1, false, none⟩,
    ⟨.dec "r0" 1 2, "r0- -> +0, +1", 2, false, none⟩, ⟨.halt "Halt", "halt", 3, false, none⟩]

/-- Of four visits the last one is to the halt, with the last step of the budget left. -/
theorem run_keeps_sound_seeding :
    compile (.atMost 9) "init r1 2\nr0- -> +0, +1\nhalt" = .ok seeding ∧
      (∀ value ∈ [(1 : Int)], 0 ≤ value) ∧
      (seeding.visits (.atMost 9) ⟨4, true⟩ [1]).map (fun snapshot => snapshot.place) =
        [0, 1, 1, 2] ∧
      (∀ snapshot ∈ seeding.visits (.atMost 9) ⟨4, true⟩ [1],
        snapshot.Sound seeding ∧ (snapshot.steps : Int) < 4) ∧
      ∃ decoded, decode (.atMost 9) 5 0 = .ok decoded ∧ decoded.InitialsNatural := by
  obtain ⟨compiled, decoded, keeps⟩ := run_keeps_sound (.atMost 9)
  have written : compile (.atMost 9) "init r1 2\nr0- -> +0, +1\nhalt" = .ok seeding := rfl
  have natural : ∀ value ∈ [(1 : Int)], 0 ≤ value := by decide
  have numbered : decode (.atMost 9) 5 0 = .ok _ := rfl
  obtain ⟨sound, -⟩ := keeps seeding ⟨4, true⟩ [1] (compiled _ _ _ written) natural (by decide)
  exact ⟨written, natural, rfl, sound, _, numbered, decoded _ _ _ numbered⟩

end CounterMachine
