import CounterMachine.Proofs.Source.Lexemes
import CounterMachine.Proofs.Text.AsciiLetters
import CounterMachine.Proofs.Text.Decimal
import CounterMachine.Source.Item
import Mathlib.Data.Bool.AllAny

/-!
Contract: names, which are words in lower case.

Owns: what a name is, that the lower case of every word is one, that numerals are names, and
which words are read as the trace marker.

Does not own: the words that spell the other keywords. As names these are not excluded.
-/

set_option autoImplicit false

namespace CounterMachine

open Text Source

/-- A word that lowering leaves alone. -/
def IsName (name : String) : Prop :=
  IsRun isWord name.toList ∧ lower name.toList = name.toList

instance (name : String) : Decidable (IsName name) :=
  inferInstanceAs
    (Decidable (IsRun isWord name.toList ∧ lower name.toList = name.toList))

namespace Source

theorem isName_lowered {word : List Char} (isRun : IsRun isWord word) : IsName (lowered word) := by
  unfold IsName lowered
  rw [String.toList_ofList]
  refine ⟨⟨lower_ne_nil isRun.1, ?_⟩, lower_lower word⟩
  intro character member
  exact isWord_of_mem_lower isRun.2 member

theorem lowered_of_isName {name : String} (isName : IsName name) : lowered name.toList = name := by
  rw [lowered, isName.2, String.ofList_toList]

theorem isRun_isWord_of_digits {digits : List Char} (isRun : IsRun Char.isDigit digits) :
    IsRun isWord digits :=
  ⟨isRun.1, fun _ member => isWord_of_isDigit (isRun.2 _ member)⟩

theorem isRun_decimalDigits (value : Nat) : IsRun Char.isDigit (decimalDigits value) :=
  ⟨decimalDigits_ne_nil value, fun _ member => isDigit_of_mem_decimalDigits member⟩

theorem lower_decimalDigits (value : Nat) : lower (decimalDigits value) = decimalDigits value := by
  apply lower_of_isSmall
  intro character member
  exact isSmall_of_isDigit (isDigit_of_mem_decimalDigits member)

/-- A small letter in front of a number is a name. -/
theorem isName_of_letter_digits {name : String} {letter : Char} {value : Nat}
    (spelled : name.toList = letter :: decimalDigits value) (word : isWord letter = true)
    (small : IsSmall letter) : IsName name := by
  unfold IsName
  rw [spelled]
  constructor
  · refine ⟨List.cons_ne_nil _ _, ?_⟩
    intro character member
    rcases List.mem_cons.mp member with rfl | inDigits
    · exact word
    · exact isWord_of_isDigit (isDigit_of_mem_decimalDigits inDigits)
  · apply lower_of_isSmall
    intro character member
    rcases List.mem_cons.mp member with rfl | inDigits
    · exact small
    · exact isSmall_of_isDigit (isDigit_of_mem_decimalDigits inDigits)

/-! ## The trace marker -/

private theorem keywordLetter_eq_iff {character letter : Char} (small : IsAsciiSmall letter)
    (dotless : letter ≠ 'i') : keywordLetter character = letter ↔ character.toLower = letter := by
  by_cases dotted : character = '\u0130'
  · subst dotted
    constructor
    · intro spelled
      exact absurd spelled.symm dotless
    · intro lowered
      exact absurd (ascii_of_toLower small lowered) (by decide)
  · rw [keywordLetter, if_neg dotted]

/-- By induction on the text. -/
private theorem map_keywordLetter_eq_iff {text letters : List Char}
    (small : ∀ letter ∈ letters, IsAsciiSmall letter ∧ letter ≠ 'i') :
    text.map keywordLetter = letters ↔ text.map Char.toLower = letters := by
  induction text generalizing letters with
  | nil => exact Iff.rfl
  | cons character after inductionHypothesis =>
      cases letters with
      | nil => simp only [List.map_cons, reduceCtorEq]
      | cons letter later =>
          have first := small letter List.mem_cons_self
          have rest := inductionHypothesis
            (fun other member => small other (List.mem_cons_of_mem _ member))
          rw [List.map_cons, List.map_cons, List.cons.injEq, List.cons.injEq,
            keywordLetter_eq_iff first.1 first.2, rest]

/-- The words that are read as the trace marker are those whose lower case is its name. -/
theorem lowered_eq_trace_iff {word : List Char} (isRun : IsRun isWord word) :
    lowered word = "trace" ↔ Spells ['t', 'r', 'a', 'c', 'e'] word := by
  have small : ∀ letter ∈ ['t', 'r', 'a', 'c', 'e'], IsAsciiSmall letter ∧ letter ≠ 'i' :=
    List.all_iff_forall_prop.mp (by decide)
  rw [Spells, map_keywordLetter_eq_iff small, ← lowerFrom_eq_iff fun letter member =>
    (small letter member).1, ← String.toList_inj, lowered, String.toList_ofList]
  exact ⟨fun same => ⟨isRun, same⟩, And.right⟩

end Source

end CounterMachine
