import CounterMachine.Text.WhiteSpace
import CounterMachine.Text.Word

/-!
Contract: white space and words are apart.

Owns: that no character is both white space and a word character.

Does not own: what separates texts otherwise, such as the information separators.
-/

set_option autoImplicit false

namespace CounterMachine.Text

theorem CodeRanges.exists_mem_of_covers {ranges : CodeRanges} {code : Nat}
    (covered : ranges.covers code = true) :
    ∃ range ∈ ranges, range.1 ≤ code ∧ code ≤ range.2 := by
  induction ranges with
  | nil => cases covered
  | cons range later inductionHypothesis =>
      obtain ⟨first, last⟩ := range
      rw [CodeRanges.covers] at covered
      by_cases before : code < first
      · rw [if_pos before] at covered
        cases covered
      · by_cases reached : code ≤ last
        · exact ⟨(first, last), List.mem_cons_self, Nat.le_of_not_lt before, reached⟩
        · rw [if_neg before, if_neg reached] at covered
          obtain ⟨range, member, bounds⟩ := inductionHypothesis covered
          exact ⟨range, List.mem_cons_of_mem _ member, bounds⟩

private theorem not_covers_of_mem_whiteSpaceRanges :
    ∀ range ∈ whiteSpaceRanges, ∀ offset : Fin (range.2 + 1 - range.1),
      wordRanges.covers (range.1 + offset) = false := by
  decide +kernel

theorem isWord_of_isWhiteSpace {character : Char} (space : isWhiteSpace character = true) :
    isWord character = false := by
  obtain ⟨range, member, low, high⟩ := CodeRanges.exists_mem_of_covers space
  have outside := not_covers_of_mem_whiteSpaceRanges range member
    ⟨character.toNat - range.1, by omega⟩
  rw [Nat.add_sub_cancel' low] at outside
  exact outside

theorem isWhiteSpace_of_isWord {character : Char} (word : isWord character = true) :
    isWhiteSpace character = false := by
  rw [Bool.eq_false_iff]
  intro space
  rw [isWord_of_isWhiteSpace space] at word
  cases word

end CounterMachine.Text
