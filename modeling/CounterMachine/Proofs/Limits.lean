import CounterMachine.Listing
import CounterMachine.Proofs.Text.Decimal

/-!
Contract: numbers within a limit on digits.

Owns: which numbers a check refuses, that numerals which may be read stand for numbers which may
be written, and the operations that have only such numbers in their text.

Does not own: where numbers are read and written.
-/

set_option autoImplicit false

namespace CounterMachine

open Text

namespace Text

theorem DigitLimit.fits_neg (limit : DigitLimit) (value : Int) :
    limit.fits (-value) = limit.fits value := by
  cases limit with
  | unlimited => rfl
  | atMost bound => rw [fits, fits, Int.natAbs_neg]

/-- What is nearer to zero than a number that fits, fits as well. -/
theorem DigitLimit.fits_of_natAbs_le {limit : DigitLimit} {value other : Int}
    (nearer : value.natAbs ≤ other.natAbs) (fitting : limit.fits other = true) :
    limit.fits value = true := by
  cases limit with
  | unlimited => rfl
  | atMost bound =>
      rw [fits, decide_eq_true_eq] at fitting ⊢
      exact Nat.lt_of_le_of_lt nearer fitting

/-- The offset of an arm that is left out can be written. -/
theorem DigitLimit.standard_fits_one : standard.fits 1 = true := by
  decide +kernel

private theorem digitValue?_le (character : Char) : (digitValue? character).getD 0 ≤ 9 := by
  unfold digitValue?
  cases decimalDigitRanges.offset? character.toNat with
  | none => exact Nat.zero_le 9
  | some offset => exact Nat.le_of_lt_succ (Nat.mod_lt offset (by decide))

/-- By induction on the digits, for every value of those before them. -/
private theorem foldl_lt_pow (digits : List Char) (start : Nat) :
    digits.foldl (fun value digit => 10 * value + (digitValue? digit).getD 0) start <
      (start + 1) * 10 ^ digits.length := by
  induction digits generalizing start with
  | nil => simp
  | cons digit later inductionHypothesis =>
      have step : 10 * start + (digitValue? digit).getD 0 + 1 ≤ (start + 1) * 10 := by
        have small := digitValue?_le digit
        omega
      calc (digit :: later).foldl _ start
          < (10 * start + (digitValue? digit).getD 0 + 1) * 10 ^ later.length :=
            inductionHypothesis _
        _ ≤ (start + 1) * 10 * 10 ^ later.length := Nat.mul_le_mul_right _ step
        _ = (start + 1) * 10 ^ (digit :: later).length := by
            rw [List.length_cons, Nat.pow_succ', Nat.mul_assoc]

theorem numeralValue_lt_pow (digits : List Char) :
    numeralValue digits < 10 ^ digits.length := by
  have bound := foldl_lt_pow digits 0
  rwa [Nat.zero_add, Nat.one_mul] at bound

theorem DigitLimit.fits_numeralValue {limit : DigitLimit} {digits : List Char}
    (admitted : limit.admits digits.length = true) :
    limit.fits (numeralValue digits) = true := by
  cases limit with
  | unlimited => rfl
  | atMost bound =>
      rw [admits, decide_eq_true_eq] at admitted
      rw [fits, decide_eq_true_eq, Int.natAbs_natCast]
      exact Nat.lt_of_lt_of_le (numeralValue_lt_pow digits)
        (Nat.pow_le_pow_right (by decide) admitted)

end Text

/-- The numbers in the text of the operation are within the limit. -/
def Operation.Within {Jump : Type} [Operand Jump] (limit : DigitLimit)
    (operation : Operation Jump) : Prop :=
  ∀ number ∈ operation.numbers, limit.fits number = true

/-! ## Checks -/

theorem checkNumerals_eq_ok {limit : DigitLimit} {numbers : List Int}
    (fitting : ∀ number ∈ numbers, limit.fits number = true) :
    checkNumerals limit numbers = .ok () := by
  cases limit with
  | unlimited => rfl
  | atMost bound => exact if_pos (List.all_eq_true.mpr fitting)

/-- A check fails in one way only, and for the length of a number. -/
theorem checkNumerals_atMost_eq_error_iff {bound : Nat} {numbers : List Int} {cause : Violation} :
    checkNumerals (.atMost bound) numbers = .error cause ↔
      (∃ number ∈ numbers, (DigitLimit.atMost bound).fits number = false) ∧
        cause = .numeralTooLong bound := by
  unfold checkNumerals
  by_cases fitting : numbers.all (DigitLimit.atMost bound).fits = true
  · simp only [if_pos fitting, reduceCtorEq, false_iff, not_and]
    rintro ⟨number, member, overlong⟩
    rw [List.all_eq_true.mp fitting number member] at overlong
    cases overlong
  · simp only [if_neg fitting, Except.error.injEq]
    have overlong : ∃ number ∈ numbers, (DigitLimit.atMost bound).fits number = false := by
      simpa using fitting
    exact ⟨fun same => ⟨overlong, same.symm⟩, fun both => both.2.symm⟩

theorem checkNumerals_of_overlong {bound : Nat} {numbers : List Int}
    (overlong : ¬ ∀ number ∈ numbers, (DigitLimit.atMost bound).fits number = true) :
    checkNumerals (.atMost bound) numbers = .error (.numeralTooLong bound) := by
  have long : ∃ number ∈ numbers, (DigitLimit.atMost bound).fits number = false := by
    simpa using overlong
  exact checkNumerals_atMost_eq_error_iff.mpr ⟨long, rfl⟩

theorem Operation.write_of_within {Jump : Type} [Operand Jump] {limit : DigitLimit}
    {operation : Operation Jump} (within : operation.Within limit) :
    operation.write limit = .ok operation.text := by
  rw [write, checkNumerals_eq_ok within]
  rfl

theorem Operation.write_of_not_within {Jump : Type} [Operand Jump] {bound : Nat}
    {operation : Operation Jump} (overlong : ¬ operation.Within (.atMost bound)) :
    operation.write (.atMost bound) = .error (.numeralTooLong bound) := by
  rw [write, checkNumerals_of_overlong overlong]
  rfl

end CounterMachine
