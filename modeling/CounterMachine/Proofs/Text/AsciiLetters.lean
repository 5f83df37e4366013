import CounterMachine.Proofs.Text.LowerCase

/-!
Contract: texts whose lower case is a word of small ASCII letters.

Owns: that Unicode and ASCII agree about which texts these are.

Does not own: `k`, which is the small letter of the Kelvin sign as well.
-/

set_option autoImplicit false

namespace CounterMachine.Text

/-- Small ASCII letters that are small letters of ASCII capitals only. -/
def IsAsciiSmall (letter : Char) : Prop :=
  'a'.toNat ≤ letter.toNat ∧ letter.toNat ≤ 'z'.toNat ∧ letter ≠ 'k'

instance (letter : Char) : Decidable (IsAsciiSmall letter) :=
  inferInstanceAs (Decidable (_ ∧ _))

variable {letter character : Char}

private theorem IsAsciiSmall.ascii (small : IsAsciiSmall letter) : letter.toNat < 128 :=
  Nat.lt_of_le_of_lt small.2.1 (by decide)

theorem ascii_of_toLower (small : IsAsciiSmall letter) (lowered : character.toLower = letter) :
    character.toNat < 128 := by
  by_cases capital : character.val ≥ 'A'.val ∧ character.val ≤ 'Z'.val
  · have high : character.toNat ≤ 'Z'.toNat := capital.2
    exact Nat.lt_of_le_of_lt high (by decide)
  · rw [toLower_of_not_capital capital] at lowered
    rw [lowered]
    exact small.ascii

private theorem smallLetter_eq_iff_toLower (small : IsAsciiSmall letter) :
    smallLetter character = letter ↔ character.toLower = letter := by
  constructor
  · intro lowered
    have ascii := ascii_of_smallLetter lowered small.1 small.2.1 small.2.2
    rwa [smallLetter_of_ascii ascii] at lowered
  · intro lowered
    rwa [smallLetter_of_ascii (ascii_of_toLower small lowered)]

/-- By induction on the text. Capital dotted I lowers to two characters and sigma to another
sigma, so neither takes part in a word of ASCII letters. -/
theorem lowerFrom_eq_iff {before text letters : List Char}
    (small : ∀ letter ∈ letters, IsAsciiSmall letter) :
    lowerFrom before text = letters ↔ text.map Char.toLower = letters := by
  induction text generalizing before letters with
  | nil => exact Iff.rfl
  | cons character after inductionHypothesis =>
      rw [lowerFrom, List.map_cons]
      by_cases dotted : character = '\u0130'
      · subst dotted
        constructor
        · rintro rfl
          have dot : IsAsciiSmall '\u0307' := small _ (by simp [lowerAt])
          exact absurd dot (by decide)
        · rintro rfl
          exact absurd (small _ List.mem_cons_self) (by decide)
      · by_cases sigma : character = '\u03a3'
        · subst sigma
          constructor
          · rintro rfl
            rw [lowerAt, if_neg dotted, if_pos rfl] at small
            have finalOrNot := small _ List.mem_cons_self
            split at finalOrNot
            · exact absurd finalOrNot (by decide)
            · exact absurd finalOrNot (by decide)
          · rintro rfl
            exact absurd (small _ List.mem_cons_self) (by decide)
        · rw [lowerAt, if_neg dotted, if_neg sigma, List.singleton_append]
          cases letters with
          | nil => simp only [reduceCtorEq]
          | cons letter later =>
              have rest : lowerFrom (character :: before) after = later ↔
                  after.map Char.toLower = later :=
                inductionHypothesis fun other member => small other (List.mem_cons_of_mem _ member)
              rw [List.cons.injEq, List.cons.injEq, rest,
                smallLetter_eq_iff_toLower (small letter List.mem_cons_self)]

end CounterMachine.Text
