import CounterMachine.Proofs.Numbering.ListCode
import Mathlib.Logic.Function.Iterate

/-!
Contract: a number is read as a list in rounds, from its lowest bits on.

Owns: one round of reading, which shifts out the bits up to the lowest one; that the rounds come
to an end for every number, with the list that the number is decoded to; and that the list code is
a bijection, in the forms that take integers.

Does not own: lists with negative elements, and negative numbers.

## Why the invariant is about codes

What is left of a number after some rounds is the code of the elements that are still to be
read. So the rounds are followed along the list, and the number is looked at only where a round
takes the pair of a head and the code of its tail apart.
-/

set_option autoImplicit false

namespace CounterMachine.Numbering

open Text

/-! ## Rounds -/

/-- What is left of a number, and the elements that have been read off it. -/
structure ListReading where
  rest : Nat
  elements : List Nat

namespace ListReading

/-- One round counts the zeros below the lowest one bit, and shifts them and that bit out. -/
def round (reading : ListReading) : ListReading :=
  let zeros := Nat.size (lowestOne reading.rest) - 1
  ⟨reading.rest >>> (zeros + 1), reading.elements ++ [zeros]⟩

/-- A round reads the head of the list whose code is left. -/
theorem round_encodeList_cons (head : Nat) (tail read : List Nat) :
    round ⟨encodeList (head :: tail), read⟩ = ⟨encodeList tail, read ++ [head]⟩ := by
  rw [round, encodeList_cons, size_lowestOne_bigPair, Nat.add_sub_cancel, bigPair_shiftRight]

/-- By induction on the rounds: they have read a front of the list, and what is left is the code
of the rest. -/
theorem iterate_round (values read : List Nat) {rounds : Nat} (within : rounds ≤ values.length) :
    round^[rounds] ⟨encodeList values, read⟩ =
      ⟨encodeList (values.drop rounds), read ++ values.take rounds⟩ := by
  induction rounds generalizing values read with
  | zero =>
      rw [List.drop_zero, List.take_zero, List.append_nil]
      rfl
  | succ rounds inductionHypothesis =>
      cases values with
      | nil => exact absurd within (Nat.not_succ_le_zero rounds)
      | cons head tail =>
          rw [Function.iterate_succ_apply, round_encodeList_cons,
            inductionHypothesis tail (read ++ [head]) (Nat.le_of_succ_le_succ within),
            List.drop_succ_cons, List.take_succ_cons, List.append_assoc]
          rfl

/-- Rounds are made as long as something is left of the number. They come to an end, and have
then read these elements. -/
def Ends (number : Nat) (elements : List Nat) : Prop :=
  ∃ rounds, round^[rounds] ⟨number, []⟩ = ⟨0, elements⟩ ∧
    ∀ earlier < rounds, (round^[earlier] ⟨number, []⟩).rest ≠ 0

/-- Every number is read to its end in as many rounds as its list has elements. -/
theorem ends_decodeList (number : Nat) : Ends number (decodeList number) := by
  have code : encodeList (decodeList number) = number := encodeList_decodeList number
  refine ⟨(decodeList number).length, ?_, ?_⟩
  · have whole := iterate_round (decodeList number) [] (Nat.le_refl _)
    rw [code, List.drop_length, List.take_length] at whole
    exact whole
  · intro earlier before
    have front := iterate_round (decodeList number) [] (Nat.le_of_lt before)
    rw [code] at front
    rw [front, List.drop_eq_getElem_cons before]
    exact Nat.ne_of_gt (encodeList_cons_pos _ _)

end ListReading

/-! ## The bijection -/

/-- Lists of natural numbers and natural numbers are in bijection: encoding and decoding undo each
other and refuse nothing, a start exponent stands for a power of two that was divided out, and
reading a number round by round ends with its list. -/
theorem listCode_bijective (limit : DigitLimit) :
    (∀ values : List Nat, ∃ code : Nat,
      checkedEncodeList limit (values.map Int.ofNat) = .ok code ∧
        checkedDecodeList limit code 0 = .ok values) ∧
    (∀ number : Nat, ∃ values : List Nat,
      checkedDecodeList limit number 0 = .ok values ∧
        checkedEncodeList limit (values.map Int.ofNat) = .ok number ∧
        ListReading.Ends number values) ∧
    ∀ number exponent : Nat,
      checkedDecodeList limit number exponent =
        checkedDecodeList limit (number * 2 ^ exponent : Nat) 0 := by
  have decoded (number : Nat) : checkedDecodeList limit number 0 = .ok (decodeList number) := by
    have plain := checkedDecodeList_natCast limit number 0
    rw [Nat.pow_zero, Nat.mul_one] at plain
    exact plain
  refine ⟨?_, ?_, ?_⟩
  · intro values
    refine ⟨encodeList values, checkedEncodeList_map_ofNat limit values, ?_⟩
    rw [decoded, decodeList_encodeList]
  · intro number
    refine ⟨decodeList number, decoded number, ?_, ListReading.ends_decodeList number⟩
    rw [checkedEncodeList_map_ofNat, encodeList_decodeList]
  · intro number exponent
    rw [checkedDecodeList_natCast, decoded]

end CounterMachine.Numbering
