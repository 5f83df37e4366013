import CounterMachine.Numbering.Pairing
import Mathlib.Algebra.Order.Ring.Nat
import Mathlib.Data.Int.Bitwise
import Mathlib.Data.Nat.Size

/-!
Contract: the two pairings are bijections.

Owns: the closed form of the big pair, its recursion on the exponent, the lowest one bit of a
number, as what the number and its negative have in common, and the laws of both pairings with
their splits in both directions.

Does not own: what the checked forms refuse.

## Why the recursion carries the proofs

The split finds the exponent with a bit trick on the number and its predecessor. Doubling a
positive number moves the answer of that trick up by exactly one place, and raising the first
component of a pair doubles the pair, so both sides are followed one doubling at a time and no
bit of the number is looked at but the lowest. The lowest one bit, which is a trick on the number
and its negative, is followed in the same way.
-/

set_option autoImplicit false

namespace CounterMachine.Numbering

/-! ## The big pair as a number -/

theorem bigPair_eq (x y : Nat) : bigPair x y = 2 ^ x * (2 * y + 1) := by
  rw [bigPair, Nat.shiftLeft_eq, Nat.mul_comm]

theorem bigPair_zero (y : Nat) : bigPair 0 y = 2 * y + 1 :=
  rfl

theorem bigPair_succ (x y : Nat) : bigPair (x + 1) y = 2 * bigPair x y := by
  rw [bigPair, bigPair, Nat.shiftLeft_succ]

theorem bigPair_pos (x y : Nat) : 0 < bigPair x y := by
  rw [bigPair_eq]
  exact Nat.mul_pos (Nat.two_pow_pos x) (Nat.succ_pos _)

/-- The second component is less than half of the pair. -/
theorem lt_bigPair (x y : Nat) : 2 * y < bigPair x y := by
  induction x with
  | zero =>
      rw [bigPair_zero]
      exact Nat.lt_succ_self _
  | succ x inductionHypothesis =>
      rw [bigPair_succ]
      omega

/-- Raising the first component doubles the pair as often. -/
theorem bigPair_add (x more y : Nat) : bigPair (x + more) y = bigPair x y * 2 ^ more := by
  rw [bigPair_eq, bigPair_eq, Nat.pow_add]
  exact Nat.mul_right_comm _ _ _

/-- Every positive number is a big pair: halve it until it is odd. -/
theorem exists_bigPair (number : Nat) (positive : 0 < number) :
    ∃ x y, number = bigPair x y := by
  induction number using Nat.strongRecOn with
  | ind number inductionHypothesis =>
      rcases Nat.even_or_odd' number with ⟨half, even | odd⟩
      · obtain ⟨x, y, pair⟩ := inductionHypothesis half (by omega) (by omega)
        refine ⟨x + 1, y, ?_⟩
        rw [bigPair_succ, ← pair]
        exact even
      · exact ⟨0, half, odd⟩

/-! ## Exponent of two -/

private theorem xor_pred_ne_zero (number : Nat) (positive : 0 < number) :
    number ^^^ (number - 1) ≠ 0 := by
  have lowest : (number ^^^ (number - 1)) % 2 = 1 := by
    rw [Nat.xor_mod_two_eq_one]
    omega
  intro zero
  rw [zero] at lowest
  exact absurd lowest (by decide)

theorem twos_odd (half : Nat) : twos (2 * half + 1) = 0 := by
  have top : ((2 * half + 1) ^^^ (2 * half)) / 2 = 0 := by
    rw [Nat.xor_div_two]
    have left : (2 * half + 1) / 2 = half := by omega
    have right : 2 * half / 2 = half := by omega
    rw [left, right, Nat.xor_self]
  rw [twos, Nat.add_sub_cancel, Nat.log2_def, if_neg (by omega)]

theorem twos_double (number : Nat) (positive : 0 < number) :
    twos (2 * number) = twos number + 1 := by
  have halved : ((2 * number) ^^^ (2 * number - 1)) / 2 = number ^^^ (number - 1) := by
    rw [Nat.xor_div_two]
    have left : 2 * number / 2 = number := by omega
    have right : (2 * number - 1) / 2 = number - 1 := by omega
    rw [left, right]
  have nonzero := xor_pred_ne_zero number positive
  rw [twos, twos, Nat.log2_def, if_pos (by omega), halved]

theorem twos_bigPair (x y : Nat) : twos (bigPair x y) = x := by
  induction x with
  | zero => exact twos_odd y
  | succ x inductionHypothesis =>
      rw [bigPair_succ, twos_double _ (bigPair_pos x y), inductionHypothesis]

/-! ## The lowest one bit -/

/-- The lowest one bit of a number. In two's complement all bits above it are inverted in the
negative, and the bits below it are zeros in both. -/
def lowestOne (number : Nat) : Nat :=
  (Int.land number (-number)).toNat

theorem lowestOne_odd (half : Nat) : lowestOne (2 * half + 1) = 1 := by
  have positive : ((2 * half + 1 : Nat) : Int) = Int.bit true half := by
    rw [Int.bit_val]
    rfl
  have negative : -((2 * half + 1 : Nat) : Int) = Int.bit true (Int.negSucc half) := by
    rw [Int.bit_val, Int.negSucc_eq, cond_true]
    omega
  have above : Int.land half (Int.negSucc half) = 0 := by
    show ((Nat.ldiff half half : Nat) : Int) = 0
    apply congrArg Nat.cast
    apply Nat.eq_of_testBit_eq
    intro place
    rw [Nat.testBit_ldiff, Bool.and_not_self, Nat.zero_testBit]
  rw [lowestOne, negative, positive, Int.land_bit, above]
  rfl

theorem lowestOne_double (number : Nat) : lowestOne (2 * number) = 2 * lowestOne number := by
  have positive : ((2 * number : Nat) : Int) = Int.bit false number := by
    rw [Int.bit_val, cond_false]
    omega
  have negative : -((2 * number : Nat) : Int) = Int.bit false (-number) := by
    rw [Int.bit_val, cond_false]
    omega
  rw [lowestOne, lowestOne, negative, positive, Int.land_bit, Bool.and_self, Int.bit_val,
    cond_false]
  omega

theorem lowestOne_bigPair (x y : Nat) : lowestOne (bigPair x y) = 2 ^ x := by
  induction x with
  | zero => exact lowestOne_odd y
  | succ x inductionHypothesis =>
      rw [bigPair_succ, lowestOne_double, inductionHypothesis, Nat.pow_succ']

/-- The lowest one bit is as long as the zeros below it and itself. -/
theorem size_lowestOne_bigPair (x y : Nat) : Nat.size (lowestOne (bigPair x y)) = x + 1 := by
  rw [lowestOne_bigPair, Nat.size_pow]

/-! ## Pairs and splits -/

/-- Behind the lowest one bit of a pair stands its second component. -/
theorem bigPair_shiftRight (x y : Nat) : bigPair x y >>> (x + 1) = y := by
  rw [bigPair, Nat.shiftRight_add, Nat.shiftLeft_shiftRight, Nat.shiftRight_succ,
    Nat.shiftRight_zero]
  omega

@[simp]
theorem splitBig_bigPair (x y : Nat) : splitBig (bigPair x y) = (x, y) := by
  rw [splitBig, twos_bigPair, bigPair_shiftRight]

theorem bigPair_splitBig (number : Nat) (positive : 0 < number) :
    bigPair (splitBig number).1 (splitBig number).2 = number := by
  obtain ⟨x, y, pair⟩ := exists_bigPair number positive
  rw [pair, splitBig_bigPair]

theorem bigPair_inj {x y x' y' : Nat} :
    bigPair x y = bigPair x' y' ↔ x = x' ∧ y = y' := by
  constructor
  · intro same
    have split := congrArg splitBig same
    rw [splitBig_bigPair, splitBig_bigPair] at split
    exact Prod.mk.inj split
  · rintro ⟨rfl, rfl⟩
    rfl

@[simp]
theorem splitSmall_smallPair (x y : Nat) : splitSmall (smallPair x y) = (x, y) := by
  have next : smallPair x y + 1 = bigPair x y := Nat.sub_add_cancel (bigPair_pos x y)
  rw [splitSmall, next, splitBig_bigPair]

theorem smallPair_splitSmall (number : Nat) :
    smallPair (splitSmall number).1 (splitSmall number).2 = number := by
  rw [smallPair, splitSmall, bigPair_splitBig (number + 1) (Nat.succ_pos number),
    Nat.add_sub_cancel]

/-- On naturals the checked form refuses nothing. -/
theorem checkedBigPair_natCast (limit : Text.DigitLimit) (x y : Nat) :
    checkedBigPair limit x y = .ok (bigPair x y) := by
  rw [checkedBigPair, if_neg (by omega), Int.toNat_natCast, Int.toNat_natCast]

end CounterMachine.Numbering
