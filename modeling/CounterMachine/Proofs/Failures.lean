import CounterMachine.Proofs.Machine.Violations
import CounterMachine.Proofs.Numbering.Refusals

/-!
Contract: every failure is one that the toolchain reports, as long as no number is too long to
be written.

Owns: the families of the errors of compiling, running, encoding and decoding under the standard
limit on digits, and the only violation that comes up instead of them, with the places where it
does.

Does not own: calls that break a condition on their arguments.

## Where a number can be too long

Texts and numbers are read within the limit, so that what a program is written with can be
written again. Three things grow beyond it: a register that is counted, the place that a jump
leads to, which is an offset added to an index, and what a number decodes to, which is written
into the name of a register, the operands and the label of each instruction.

## What counts as a number

Numbers are unbounded: each is there however much memory it would take, and so is every power of
two. A source, on the other hand, is a text at hand. Its lines and the places in its program are
counted by numbers that are always short enough to be written, so none of them is checked.
-/

set_option autoImplicit false

namespace CounterMachine

open Text

private theorem compileError_family (error : CompileError) :
    error.diagnostic.family = .parse ∨ error.diagnostic.family = .link := by
  cases error with
  | parse error => exact .inl rfl
  | link error => exact .inr rfl

/-- Each stage either returns or fails with an error of its own family, apart from violations of
the limit on digits. A run ends with one where it meets something that cannot be written; a
number is decoded to one where an operand, a register or a label cannot be written. Compiling and
encoding end with none. -/
theorem failures_reported_or_overlong (source file : String) :
    (∀ error, compile .standard source file = .error error →
      error.diagnostic.family = .parse ∨ error.diagnostic.family = .link) ∧
    (∀ program, compile .standard source file = .ok program →
      (∀ (arguments : List Int) (budget : Nat) (traceAll : Bool),
        (∀ value ∈ arguments, 0 ≤ value) → 1 ≤ budget →
          let result := (program.run .standard ⟨budget, traceAll⟩ arguments).result
          ∃ registers, RegisterFile.ofArguments .standard arguments = .ok registers ∧
            let meets := (program.limited ⟨budget, traceAll⟩ 4300).Meets
              (Snapshot.Unwritable .standard program traceAll) budget ⟨0, 0, registers, []⟩
            (meets → result = .error (.violation (.numeralTooLong 4300))) ∧
              (¬ meets → ∀ error, result = .error error → error.Reported)) ∧
      (∀ error, program.encode .standard = .error error → error.Reported)) ∧
    (∀ number exponent : Nat, ∃ program : Program,
      decode .unlimited number exponent = .ok program ∧
        ((∀ body ∈ program, body.Within .standard) →
          decode .standard number exponent = .ok program) ∧
        (¬ (∀ body ∈ program, body.Within .standard) →
          decode .standard number exponent = .error (.violation (.numeralTooLong 4300)))) ∧
    (∀ number : Nat, ∃ body : Instruction Int,
      decodeInstruction .unlimited number = .ok body ∧
        (body.Within .standard → decodeInstruction .standard number = .ok body) ∧
        (¬ body.Within .standard →
          decodeInstruction .standard number = .error (.violation (.numeralTooLong 4300)))) := by
  refine ⟨fun error _ => compileError_family error, ?_, decode_atMost 4300,
    decodeInstruction_atMost 4300⟩
  intro program compiled
  have fits (body : Instruction Int) (member : body ∈ program) :=
    fits_of_compile DigitLimit.standard_fits_one compiled member
  refine ⟨?_, ?_⟩
  · intro arguments budget traceAll natural positive
    exact run_failure_iff (fun body member => (fits body member).1) natural positive traceAll
  · intro error refused
    exact Program.encode_reported (fun body member => (fits body member).2) refused

/-- Jumps behind its own end. -/
def leaping : Program :=
  [⟨.inc "r0" 9, "r0+ -> +9", 1, false, none⟩]

private theorem run_leaping :
    (leaping.run .standard ⟨(1 : Nat), false⟩ [2]).result =
      .error (.outOfBounds 0 1 "r0+ -> +9" 9 1) := by
  obtain ⟨registers, accepted, -⟩ := RegisterFile.ofArguments_eq_ok .standard
    (by decide : ∀ value ∈ [(2 : Int)], 0 ≤ value)
  have written : checkNumerals (leaping.limited ⟨1, false⟩ 4300).limit [9] = .ok () := by
    decide +kernel
  have tracing : (leaping.limited ⟨1, false⟩ 4300).traceEvents
      ⟨.inc "r0" 9, "r0+ -> +9", 1, false, none⟩ registers = .ok [] := rfl
  have effect : (Operation.inc "r0" 9).effect (leaping.limited ⟨1, false⟩ 4300).limit 0 registers =
      .ok (.jump 9 (registers.write "r0" (registers.value "r0" + 1)) []) := rfl
  have outside :
      ¬ (0 ≤ (9 : Int) ∧ 9 < ((leaping.limited ⟨1, false⟩ 4300).cells.length : Int)) := by
    decide
  have left : (leaping.limited ⟨1, false⟩ 4300).step ⟨0, 0, registers, []⟩ = _ :=
    Machine.step_eq_iff.mpr (.leave rfl tracing effect outside written)
  rw [leaping.run_eq .standard false [2] (Nat.le_refl 1) 1, accepted]
  show ((leaping.limited ⟨1, false⟩ 4300).advance 1 ⟨0, 0, registers, []⟩).result = _
  rw [Machine.advance, left]
  rfl

/-- A jump behind the end of the program is reported, as nothing in its report is too long. -/
theorem failures_reported_leaping :
    compile .standard "r0+ -> +9" = .ok leaping ∧
      ∃ error, (leaping.run .standard ⟨(1 : Nat), false⟩ [2]).result = .error error ∧
        error.Reported := by
  have compiled : compile .standard "r0+ -> +9" = .ok leaping := by decide +kernel
  obtain ⟨-, ofCompiled, -⟩ := failures_reported_or_overlong "r0+ -> +9" ""
  obtain ⟨registers, accepted, -, reported⟩ :=
    (ofCompiled leaping compiled).1 [2] 1 false (by decide) (Nat.le_refl 1)
  refine ⟨compiled, _, run_leaping, reported ?_ _ run_leaping⟩
  rintro ⟨count, last, below, onward, unwritable⟩
  cases Nat.lt_one_iff.mp below
  cases onward
  rcases unwritable with ⟨body, register, found, traced, -⟩ |
    ⟨body, target, changed, computed, found, effect, -, long⟩
  · cases traced
  · cases found
    cases effect
    exact absurd long (by decide +kernel)

/-- The number of an increment that goes to a place of 4301 digits is not decoded. -/
theorem decodeInstruction_overlong :
    decodeInstruction .standard (2 * Nat.pow 10 4300 + 1 : Nat) =
      .error (.violation (.numeralTooLong 4300)) := by
  decide +kernel

end CounterMachine
