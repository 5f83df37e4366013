import CounterMachine.Numbering.Explanation
import CounterMachine.Proofs.Limits
import CounterMachine.Proofs.Sequencing

/-!
Contract: an explanation leads to the result that it explains.

Owns: the result of derivations in sequence, and that without a limit on digits an explained
encoding of a program and an explained decoding end in what the plain ones give.

Does not own: the lines of an explanation.

## Why there is no limit

A line that cannot be written ends a derivation before its result is reached. Without a limit
every line can be.
-/

set_option autoImplicit false

namespace CounterMachine

open Text CounterMachine.Numbering

/-! ## Results in sequence -/

namespace Derivation

variable {Failure First Second : Type}

@[simp]
theorem result_pure (value : First) :
    (pure value : Derivation Failure First).result = .ok value :=
  rfl

@[simp]
theorem result_silent (result : Except Failure First) : (silent result).result = result :=
  rfl

@[simp]
theorem result_line (text : String) : (line text : Derivation Failure Unit).result = .ok () :=
  rfl

/-- Lines have no part in a result. -/
@[simp]
theorem result_bind (first : Derivation Failure First) (next : First → Derivation Failure Second) :
    (first >>= next).result = first.result >>= fun value => (next value).result := by
  show (first.bind next).result = _
  rw [Derivation.bind]
  cases first.result with
  | error failure => rfl
  | ok value => rfl

theorem result_state_unlimited (refuse : Violation → Failure) (stated : DerivationLine) :
    (state refuse .unlimited stated).result = .ok () := by
  simp only [state, result_bind, result_silent, result_line, DerivationLine.write,
    checkNumerals_unlimited]
  rfl

theorem result_stateAll_unlimited (refuse : Violation → Failure)
    (statements : List DerivationLine) :
    (stateAll refuse .unlimited statements).result = .ok () := by
  induction statements with
  | nil => rfl
  | cons stated later inductionHypothesis =>
      simp only [stateAll, result_bind, result_state_unlimited, ok_bind, inductionHypothesis]

end Derivation

open CounterMachine.Derivation

/-! ## Encoding -/

private theorem result_explainToken (token : Token Int) :
    (explainToken .unlimited token).result = encodeToken .unlimited token := by
  simp only [explainToken, encodeToken, result_bind, result_silent, result_stateAll_unlimited,
    result_pure, ok_bind, pure_eq_ok]

private theorem heading_unlimited (body : Instruction Int) :
    ∃ text, (Token.instruction body).heading .unlimited = .ok text := by
  have written : (Token.instruction body).write .unlimited = .ok body.operation.text := by
    show body.operation.write .unlimited = _
    exact Operation.write_of_within fun _ _ => rfl
  by_cases unknown : body.text.isEmpty = true
  · exact ⟨_, (if_pos unknown).trans written⟩
  · exact ⟨_, if_neg unknown⟩

private theorem result_explainCodes (program : Program) :
    (explainCodes .unlimited program.tokens).result =
      encodeTokens .unlimited program.tokens := by
  induction program with
  | nil => rfl
  | cons body later inductionHypothesis =>
      obtain ⟨text, heading⟩ := heading_unlimited body
      have headed : ((Token.instruction body).heading .unlimited).mapError EncodeError.violation =
          .ok text :=
        mapError_eq_ok.mpr heading
      show (explainCodes .unlimited (.instruction body :: Program.tokens later)).result =
        encodeTokens .unlimited (.instruction body :: Program.tokens later)
      simp only [explainCodes, encodeTokens, result_bind, result_silent, headed,
        result_line, result_explainToken, result_state_unlimited,
        inductionHypothesis, result_pure, ok_bind, pure_eq_ok]

/-- An explained encoding of a program ends in its number, or in the reason why it has none. -/
theorem result_explainEncoding (program : Program) :
    (explainEncoding .unlimited program.tokens).result = program.encode .unlimited := by
  simp only [explainEncoding, Program.encode, encode, result_bind, result_explainCodes,
    result_state_unlimited, result_pure, ok_bind, pure_eq_ok]

/-! ## Decoding -/

private theorem result_explainInstruction (code : Nat) :
    (explainInstruction .unlimited code).result =
      ((NumberedOperation.ofCode code).instruction .unlimited).mapError .violation := by
  simp only [explainInstruction, result_bind, result_silent, result_stateAll_unlimited, ok_bind]

private theorem result_explainInstructions (index : Nat) (codes : List Nat) :
    (explainInstructions .unlimited index codes).result =
      (instructionsFrom .unlimited index codes).mapError .violation := by
  induction codes generalizing index with
  | nil => rfl
  | cons code later inductionHypothesis =>
      simp only [explainInstructions, instructionsFrom, result_bind, result_line, result_pure,
        result_silent, result_explainInstruction, inductionHypothesis, checkNumerals_unlimited,
        ok_bind, pure_eq_ok]
      cases (NumberedOperation.ofCode code).instruction .unlimited with
      | error cause => rfl
      | ok body =>
          cases instructionsFrom .unlimited (index + 1) later with
          | error cause => rfl
          | ok rest => rfl

/-- An explained decoding ends in the program of the number, or in the reason why there is none. -/
theorem result_explainDecoding (number exponent : Int) :
    (explainDecoding .unlimited number exponent).result = decode .unlimited number exponent := by
  simp only [explainDecoding, decode, result_bind, result_silent, result_stateAll_unlimited,
    ok_bind, result_explainInstructions]

end CounterMachine
