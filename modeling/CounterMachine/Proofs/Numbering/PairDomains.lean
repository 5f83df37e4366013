import CounterMachine.Proofs.Limits
import CounterMachine.Proofs.Numbering.Pairing
import CounterMachine.Proofs.Sequencing

/-!
Contract: the domains of the two pairings, and what happens outside them.

Owns: which pairs of integers and which numbers are refused, with their refusals; the split of a
number as the exponent that its lowest one bit shows and half of the odd cofactor; and that both
pairings are bijections between the pairs of naturals and the numbers from a least one on.

Does not own: lists, in which the big pairing is repeated.

## Why the least number is a parameter

The small pairing is the big one moved down by one. With its least number given, either is
described by the same words, and what is said of numbers below the least one is said of exactly
those that no pair has.
-/

set_option autoImplicit false

namespace CounterMachine

open Text

/-- The error is reported as one of decoding. -/
def DecodeError.Reported (error : DecodeError) : Prop :=
  ∃ diagnostic, error.failure = .diagnostic diagnostic ∧ diagnostic.family = .decode

namespace Numbering

/-! ## Splitting by the lowest one bit -/

/-- The zeros below the lowest one bit, and the predecessor half of the odd number above them. -/
def oddSplit (number : Nat) : Nat × Nat :=
  let zeros := Nat.size (lowestOne number) - 1
  (zeros, (number >>> zeros - 1) / 2)

theorem oddSplit_bigPair (x y : Nat) : oddSplit (bigPair x y) = (x, y) := by
  have zeros : Nat.size (lowestOne (bigPair x y)) - 1 = x := by
    rw [size_lowestOne_bigPair, Nat.add_sub_cancel]
  have cofactor : bigPair x y >>> x = 2 * y + 1 := Nat.shiftLeft_shiftRight (2 * y + 1) x
  have half : (2 * y + 1 - 1) / 2 = y := by omega
  rw [oddSplit, zeros, cofactor, half]

/-- The bits in which a number and its predecessor differ show the same exponent as its lowest
one bit. -/
theorem splitBig_eq_oddSplit (number : Nat) (positive : 0 < number) :
    splitBig number = oddSplit number := by
  obtain ⟨x, y, rfl⟩ := exists_bigPair number positive
  rw [splitBig_bigPair, oddSplit_bigPair]

/-! ## Pairs within the domain -/

theorem checkedSmallPair_natCast (limit : DigitLimit) (x y : Nat) :
    checkedSmallPair limit x y = .ok (smallPair x y) := by
  rw [checkedSmallPair, checkedBigPair_natCast, ok_bind]
  rfl

theorem checkedSplitBig_natCast {number : Nat} (positive : 1 ≤ number) :
    checkedSplitBig number = .ok (splitBig number) := by
  rw [checkedSplitBig, if_neg (by omega), Int.toNat_natCast]

theorem checkedSplitSmall_natCast (number : Nat) :
    checkedSplitSmall number = .ok (splitSmall number) := by
  rw [checkedSplitSmall, if_neg (by omega), Int.toNat_natCast]

/-! ## Refusals -/

/-- The refusal of a pair shows both components, unless one of them is too long to be written:
then it is refused for that. -/
inductive PairRefusal (limit : DigitLimit) (x y : Int) : Violation → Prop where
  | shown (fitting : ∀ component ∈ [x, y], limit.fits component = true) :
      PairRefusal limit x y (.negativePair x y)
  | overlong {bound : Nat} (limited : limit = .atMost bound)
      (long : ∃ component ∈ [x, y], limit.fits component = false) :
      PairRefusal limit x y (.numeralTooLong bound)

theorem checkedBigPair_of_negative (limit : DigitLimit) {x y : Int} (negative : x < 0 ∨ y < 0) :
    ∃ cause, checkedBigPair limit x y = .error cause ∧ PairRefusal limit x y cause := by
  by_cases fitting : ∀ component ∈ [x, y], limit.fits component = true
  · refine ⟨.negativePair x y, ?_, .shown fitting⟩
    rw [checkedBigPair, if_pos negative, checkNumerals_eq_ok fitting, ok_bind]
  · -- Only a bounded limit leaves numbers that cannot be written.
    cases limit with
    | unlimited => exact absurd (fun component _ => rfl) fitting
    | atMost bound =>
        have long : ∃ component ∈ [x, y], (DigitLimit.atMost bound).fits component = false := by
          push Not at fitting
          simpa only [Bool.not_eq_true] using fitting
        refine ⟨.numeralTooLong bound, ?_, .overlong rfl long⟩
        rw [checkedBigPair, if_pos negative, checkNumerals_atMost_eq_error_iff.mpr ⟨long, rfl⟩,
          error_bind]

/-- The small pairing refuses what the big one does, for the same cause. -/
theorem checkedSmallPair_of_negative (limit : DigitLimit) {x y : Int} (negative : x < 0 ∨ y < 0) :
    ∃ cause, checkedSmallPair limit x y = .error cause ∧ PairRefusal limit x y cause := by
  obtain ⟨cause, refused, refusal⟩ := checkedBigPair_of_negative limit negative
  refine ⟨cause, ?_, refusal⟩
  rw [checkedSmallPair, refused, error_bind]

/-! ## The bijections -/

/-- A pairing counts `2 ^ x * (2 * y + 1)` from its least number on. Joining and splitting undo
each other on the pairs of naturals and the numbers that are not below the least one, and refuse
everything else. -/
structure IsPairing (limit : DigitLimit) (least : Nat)
    (join : Int → Int → Except Violation Nat)
    (split : Int → Except DecodeError (Nat × Nat)) : Prop where
  split_join : ∀ x y : Nat, ∃ number : Nat, join x y = .ok number ∧
    number + 1 = least + 2 ^ x * (2 * y + 1) ∧ split number = .ok (x, y)
  join_split : ∀ number : Nat, least ≤ number → ∃ x y : Nat,
    (x, y) = oddSplit (number + 1 - least) ∧ split number = .ok (x, y) ∧ join x y = .ok number
  join_refused : ∀ x y : Int, x < 0 ∨ y < 0 →
    ∃ cause, join x y = .error cause ∧ PairRefusal limit x y cause
  split_refused : ∀ number : Int, number < least →
    ∃ error, split number = .error error ∧ error.Reported

theorem isPairing_big (limit : DigitLimit) :
    IsPairing limit 1 (checkedBigPair limit) checkedSplitBig where
  split_join := by
    intro x y
    refine ⟨bigPair x y, checkedBigPair_natCast limit x y, ?_, ?_⟩
    · rw [bigPair_eq, Nat.add_comm]
    · rw [checkedSplitBig_natCast (bigPair_pos x y), splitBig_bigPair]
  join_split := by
    intro number positive
    refine ⟨(splitBig number).1, (splitBig number).2, ?_, checkedSplitBig_natCast positive, ?_⟩
    · rw [Nat.add_sub_cancel]
      exact splitBig_eq_oddSplit number positive
    · rw [checkedBigPair_natCast, bigPair_splitBig number positive]
  join_refused := fun _ _ negative => checkedBigPair_of_negative limit negative
  split_refused := fun _ below => ⟨.bigPairBelowOne, if_pos below, _, rfl, rfl⟩

theorem isPairing_small (limit : DigitLimit) :
    IsPairing limit 0 (checkedSmallPair limit) checkedSplitSmall where
  split_join := by
    intro x y
    refine ⟨smallPair x y, checkedSmallPair_natCast limit x y, ?_, ?_⟩
    · rw [smallPair, Nat.sub_add_cancel (bigPair_pos x y), bigPair_eq, Nat.zero_add]
    · rw [checkedSplitSmall_natCast, splitSmall_smallPair]
  join_split := by
    intro number _
    refine ⟨(splitSmall number).1, (splitSmall number).2, ?_, checkedSplitSmall_natCast number, ?_⟩
    · exact splitBig_eq_oddSplit (number + 1) (Nat.succ_pos number)
    · rw [checkedSmallPair_natCast, smallPair_splitSmall]
  join_refused := fun _ _ negative => checkedSmallPair_of_negative limit negative
  split_refused := fun _ below => ⟨.smallPairNegative, if_pos below, _, rfl, rfl⟩

/-- Both pairings are bijections: the big one between the pairs of naturals and the positive
numbers, the small one between these pairs and all naturals. Outside, pairs are refused as
violations and numbers with an error of decoding. -/
theorem pairings_bijective (limit : DigitLimit) :
    IsPairing limit 1 (checkedBigPair limit) checkedSplitBig ∧
      IsPairing limit 0 (checkedSmallPair limit) checkedSplitSmall :=
  ⟨isPairing_big limit, isPairing_small limit⟩

/-- Forty is the big pair of three and two; zero is no big pair, and nothing is the pair of minus
one and zero. -/
theorem pairings_bijective_forty :
    (checkedBigPair .standard 3 2 = .ok 40 ∧ checkedSplitBig 40 = .ok (3, 2)) ∧
      (1 ≤ 40 ∧ ∃ x y : Nat, (x, y) = oddSplit 40 ∧ checkedSplitBig 40 = .ok (x, y) ∧
        checkedBigPair .standard x y = .ok 40) ∧
      ((-1 : Int) < 0 ∧ ∃ cause, checkedBigPair .standard (-1) 0 = .error cause ∧
        PairRefusal .standard (-1) 0 cause) ∧
      ((0 : Int) < 1 ∧ ∃ error, checkedSplitBig 0 = .error error ∧ error.Reported) := by
  obtain ⟨big, -⟩ := pairings_bijective .standard
  refine ⟨?_, ⟨by decide, big.join_split 40 (by decide)⟩,
    ⟨by decide, big.join_refused (-1) 0 (by decide)⟩, ⟨by decide, big.split_refused 0 (by decide)⟩⟩
  obtain ⟨number, joined, counted, split⟩ := big.split_join 3 2
  have forty : number = 40 := by omega
  rw [forty] at joined split
  exact ⟨joined, split⟩

end Numbering

end CounterMachine
