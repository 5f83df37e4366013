import CounterMachine.Proofs.Numbering.Pairing
import CounterMachine.Proofs.Sequencing

/-!
Contract: the code of a list is a bijection between lists of naturals and naturals.

Owns: both directions of the bijection, and the exponent that a number may be divided by
before it is decoded.

## Which direction comes first

The bound on the decoder's recursion is a number of bits, so the induction is on the bits of
the number: each element takes at least one of them. That proves that encoding a decoded
number gives the number back. The other direction needs no bound of its own, since two lists
with one code are equal.
-/

set_option autoImplicit false

namespace CounterMachine.Numbering

theorem encodeList_cons (head : Nat) (tail : List Nat) :
    encodeList (head :: tail) = bigPair head (encodeList tail) :=
  rfl

theorem encodeList_cons_pos (head : Nat) (tail : List Nat) : 0 < encodeList (head :: tail) :=
  bigPair_pos head (encodeList tail)

theorem encodeList_inj {left right : List Nat} :
    encodeList left = encodeList right ↔ left = right := by
  refine ⟨fun same => ?_, congrArg encodeList⟩
  induction left generalizing right with
  | nil =>
      cases right with
      | nil => rfl
      | cons head tail => exact absurd same (Nat.ne_of_lt (encodeList_cons_pos head tail))
  | cons leftHead leftTail inductionHypothesis =>
      cases right with
      | nil => exact absurd same.symm (Nat.ne_of_lt (encodeList_cons_pos leftHead leftTail))
      | cons rightHead rightTail =>
          rw [encodeList_cons, encodeList_cons, bigPair_inj] at same
          rw [same.1, inductionHypothesis same.2]

/-- A number of so many bits has no more elements than bits. -/
private theorem encodeList_decodeListWithin (bits number : Nat) (small : number < 2 ^ bits) :
    encodeList (decodeListWithin bits number) = number := by
  induction bits generalizing number with
  | zero =>
      have zero : number = 0 := Nat.lt_one_iff.mp small
      rw [zero]
      rfl
  | succ bits inductionHypothesis =>
      by_cases zero : number = 0
      · rw [decodeListWithin, if_pos zero, zero]
        rfl
      · have pair := bigPair_splitBig number (Nat.pos_of_ne_zero zero)
        have tailSmall : (splitBig number).2 < 2 ^ bits := by
          have twice := lt_bigPair (splitBig number).1 (splitBig number).2
          rw [pair] at twice
          rw [Nat.pow_succ] at small
          omega
        rw [decodeListWithin, if_neg zero]
        show bigPair (splitBig number).1
          (encodeList (decodeListWithin bits (splitBig number).2)) = number
        rw [inductionHypothesis _ tailSmall, pair]

@[simp]
theorem encodeList_decodeList (number : Nat) : encodeList (decodeList number) = number :=
  encodeList_decodeListWithin _ number Nat.lt_log2_self

@[simp]
theorem decodeList_encodeList (values : List Nat) : decodeList (encodeList values) = values :=
  encodeList_inj.mp (encodeList_decodeList (encodeList values))

/-- On naturals the checked encoder refuses nothing. -/
theorem checkedEncodeList_map_ofNat (limit : Text.DigitLimit) (values : List Nat) :
    checkedEncodeList limit (values.map Int.ofNat) = .ok (encodeList values) := by
  induction values with
  | nil => rfl
  | cons head tail inductionHypothesis =>
      rw [List.map_cons, checkedEncodeList, inductionHypothesis, ok_bind]
      exact checkedBigPair_natCast limit head (encodeList tail)

/-! ## The start exponent -/

theorem encodeList_raiseFirst (exponent : Nat) (values : List Nat) :
    encodeList (raiseFirst exponent values) = encodeList values * 2 ^ exponent := by
  cases values with
  | nil => exact (Nat.zero_mul _).symm
  | cons head tail => exact bigPair_add head exponent (encodeList tail)

/-- Dividing a code by a power of two is made good by raising the first element. -/
theorem decodeList_mul_two_pow (number exponent : Nat) :
    decodeList (number * 2 ^ exponent) = raiseFirst exponent (decodeList number) := by
  rw [← encodeList_inj, encodeList_raiseFirst, encodeList_decodeList, encodeList_decodeList]

/-- On naturals the checked decoder refuses nothing. -/
theorem checkedDecodeList_natCast (limit : Text.DigitLimit) (number exponent : Nat) :
    checkedDecodeList limit number exponent = .ok (decodeList (number * 2 ^ exponent)) := by
  rw [checkedDecodeList, if_neg (by omega), if_neg (by omega), decodeList_mul_two_pow,
    Int.toNat_natCast, Int.toNat_natCast]

end CounterMachine.Numbering
