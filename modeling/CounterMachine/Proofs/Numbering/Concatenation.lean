import CounterMachine.Proofs.Agreement
import CounterMachine.Proofs.Numbering.Programs
import Mathlib.Data.Nat.Size

/-!
Contract: the number of a program behind another stands behind its number.

Owns: how many bits the code of a list has; that the codes of two lists, written one behind the
other in binary, are the code of both lists in a row; and the same for the numbers of programs,
in both directions.

Does not own: programs without a number.

## Why the seam is clean

Every element ends with a one bit, and so does every code of a list that is not empty. The zeros
that begin the second code are therefore never counted with an element of the first.
-/

set_option autoImplicit false

namespace CounterMachine

open Text

/-! ## Codes of lists -/

namespace Numbering

/-- The bits of the second component, a one, and the zeros. -/
theorem size_bigPair (x y : Nat) : Nat.size (bigPair x y) = Nat.size y + (x + 1) := by
  have odd : 2 * y + 1 = Nat.bit true y := rfl
  have nonzero : Nat.bit true y ≠ 0 := Nat.succ_ne_zero (2 * y)
  rw [bigPair, odd, Nat.size_shiftLeft nonzero, Nat.size_bit nonzero]
  omega

/-- What is added to the second component from a bit on is added to the pair as many bits above
that one as the pair puts in front. -/
theorem bigPair_add_mul (x y more place : Nat) :
    bigPair x (y + more * 2 ^ place) = bigPair x y + more * 2 ^ (place + (x + 1)) := by
  calc bigPair x (y + more * 2 ^ place)
      = 2 ^ x * (2 * y + 1) + more * (2 ^ place * (2 ^ x * 2)) := by
        rw [bigPair_eq]
        ring
    _ = bigPair x y + more * 2 ^ (place + (x + 1)) := by
        rw [bigPair_eq, Nat.pow_add, Nat.pow_succ]

/-- An element takes as many bits as it counts zeros, and the one that ends it. -/
theorem size_encodeList (values : List Nat) :
    Nat.size (encodeList values) = (values.map fun value => value + 1).sum := by
  induction values with
  | nil => rfl
  | cons head tail inductionHypothesis =>
      rw [encodeList_cons, size_bigPair, inductionHypothesis, List.map_cons, List.sum_cons]
      omega

theorem encodeList_append (left right : List Nat) :
    encodeList (left ++ right) =
      encodeList left + encodeList right * 2 ^ Nat.size (encodeList left) := by
  induction left with
  | nil =>
      show encodeList right = 0 + encodeList right * 2 ^ 0
      omega
  | cons head tail inductionHypothesis =>
      rw [List.cons_append, encodeList_cons, encodeList_cons, inductionHypothesis,
        bigPair_add_mul, size_bigPair]

/-- The lists of two numbers follow each other in the list of the numbers written behind each
other. -/
theorem decodeList_add_mul (low high : Nat) :
    decodeList (low + high * 2 ^ Nat.size low) = decodeList low ++ decodeList high := by
  rw [← encodeList_inj, encodeList_append, encodeList_decodeList, encodeList_decodeList,
    encodeList_decodeList]

end Numbering

open CounterMachine.Numbering

/-! ## Numbers of programs -/

variable {limit : DigitLimit}

private theorem encodeTokens_append {left right : List (Token Int)}
    {leftCodes rightCodes : List Nat}
    (leftAccepted : encodeTokens limit left = .ok leftCodes)
    (rightAccepted : encodeTokens limit right = .ok rightCodes) :
    encodeTokens limit (left ++ right) = .ok (leftCodes ++ rightCodes) := by
  induction left generalizing leftCodes with
  | nil =>
      cases leftAccepted
      exact rightAccepted
  | cons token later inductionHypothesis =>
      obtain ⟨code, head, leftAccepted⟩ := bind_eq_ok.mp leftAccepted
      obtain ⟨codes, tail, returned⟩ := bind_eq_ok.mp leftAccepted
      cases returned
      rw [List.cons_append, encodeTokens, head, ok_bind, inductionHypothesis tail]
      rfl

/-- The codes of a program are those of its instructions, place by place. -/
private theorem forall₂_of_encodeTokens {program : Program} {codes : List Nat}
    (accepted : encodeTokens limit program.tokens = .ok codes) :
    List.Forall₂ (fun body code => encodeToken limit (.instruction body) = .ok code)
      program codes := by
  induction program generalizing codes with
  | nil =>
      cases accepted
      exact .nil
  | cons body later inductionHypothesis =>
      obtain ⟨code, head, accepted⟩ := bind_eq_ok.mp accepted
      obtain ⟨rest, tail, returned⟩ := bind_eq_ok.mp accepted
      cases returned
      exact .cons head (inductionHypothesis tail)

theorem Program.tokens_append (left right : Program) :
    Program.tokens (left ++ right) = left.tokens ++ right.tokens :=
  List.map_append

/-- Two programs with numbers, one behind the other, have the numbers one behind the other. -/
theorem Program.encode_append {left right : Program} {leftNumber rightNumber : Nat}
    (leftAccepted : left.encode limit = .ok leftNumber)
    (rightAccepted : right.encode limit = .ok rightNumber) :
    Program.encode limit (left ++ right) =
      .ok (leftNumber + rightNumber * 2 ^ Nat.size leftNumber) := by
  obtain ⟨leftCodes, leftRead, leftSame⟩ := bind_eq_ok.mp leftAccepted
  obtain ⟨rightCodes, rightRead, rightSame⟩ := bind_eq_ok.mp rightAccepted
  cases leftSame
  cases rightSame
  rw [Program.encode, CounterMachine.encode, Program.tokens_append,
    encodeTokens_append leftRead rightRead, ok_bind, encodeList_append]
  rfl

/-! ## Programs of numbers -/

theorem numberedsOf_add_mul (low high : Nat) :
    numberedsOf (low + high * 2 ^ Nat.size low) = numberedsOf low ++ numberedsOf high := by
  rw [numberedsOf, decodeList_add_mul, List.map_append]
  rfl

/-- Numbers one behind the other decode to their programs one behind the other, with the labels
of places in the whole. -/
theorem decode_add_mul (low high : Nat) :
    ∃ first second : Program,
      decode .unlimited low 0 = .ok first ∧ decode .unlimited high 0 = .ok second ∧
      decode .unlimited (low + high * 2 ^ Nat.size low : Nat) 0 =
        .ok ((first ++ second).mapIdx fun index body => body.placedAt index) := by
  refine ⟨_, _, decode_natCast_zero low, decode_natCast_zero high, ?_⟩
  rw [decode_natCast_zero, numberedsOf_add_mul, List.mapIdx_append, List.mapIdx_append,
    List.mapIdx_mapIdx, List.mapIdx_mapIdx, List.length_mapIdx]
  rfl

/-! ## Concatenation -/

/-- The number of a program has one bit more for each instruction than the codes of the
instructions count, and the number of another program behind it is written in front of these
bits. Conversely, two numbers written one behind the other decode to their programs one behind the
other, except that labels count the places of the whole. -/
theorem numbers_concatenate (limit : DigitLimit) :
    (∀ (left right : Program) (leftNumber rightNumber : Nat),
      left.encode limit = .ok leftNumber → right.encode limit = .ok rightNumber →
        (∃ codes : List Nat,
          List.Forall₂ (fun body code => encodeToken limit (.instruction body) = .ok code)
            left codes ∧
          Nat.size leftNumber = (codes.map fun code => code + 1).sum) ∧
        Program.encode limit (left ++ right) =
          .ok (leftNumber + rightNumber * 2 ^ Nat.size leftNumber)) ∧
    ∀ low high : Nat, ∃ first second whole : Program,
      decode .unlimited low 0 = .ok first ∧ decode .unlimited high 0 = .ok second ∧
      decode .unlimited (low + high * 2 ^ Nat.size low : Nat) 0 = .ok whole ∧
      whole = (first ++ second).mapIdx (fun index body => body.placedAt index) ∧
      whole.agrees (first ++ second) = true := by
  constructor
  · intro left right leftNumber rightNumber leftAccepted rightAccepted
    refine ⟨?_, Program.encode_append leftAccepted rightAccepted⟩
    obtain ⟨codes, read, same⟩ := bind_eq_ok.mp leftAccepted
    cases same
    exact ⟨codes, forall₂_of_encodeTokens read, size_encodeList codes⟩
  · intro low high
    obtain ⟨first, second, firstDecoded, secondDecoded, decoded⟩ := decode_add_mul low high
    refine ⟨first, second, _, firstDecoded, secondDecoded, decoded, rfl, ?_⟩
    apply Program.agrees_mapIdx_iff.mpr
    intro index inside
    rfl

/-- An increment of number 8, which has four bits, with a halt of number 1 behind it. -/
theorem numbers_concatenate_seam :
    Program.encode .unlimited [⟨.inc "r0" 1, "", 1, false, none⟩] = .ok 8 ∧
      Program.encode .unlimited [⟨.halt "done", "", 2, false, none⟩] = .ok 1 ∧
      Program.encode .unlimited
        [⟨.inc "r0" 1, "", 1, false, none⟩, ⟨.halt "done", "", 2, false, none⟩] =
          .ok (8 + 1 * 2 ^ 4) := by
  have increment :
      Program.encode .unlimited [⟨.inc "r0" 1, "", 1, false, none⟩] = .ok 8 := rfl
  have halt :
      Program.encode .unlimited [⟨.halt "done", "", 2, false, none⟩] = .ok 1 := rfl
  obtain ⟨-, both⟩ := (numbers_concatenate .unlimited).1 _ _ 8 1 increment halt
  have bits : Nat.size 8 = 4 := by decide
  rw [bits] at both
  exact ⟨increment, halt, both⟩

end CounterMachine
