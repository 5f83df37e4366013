import CounterMachine.Proofs.Expression.Completeness
import CounterMachine.Proofs.Expression.Soundness
import CounterMachine.Proofs.Expression.Unambiguity

/-!
Contract: evaluating an expression text, said without a reader.

Owns: that a text is parsed exactly when it spells a tree, and that its value is the value of
that tree, where the nesting is within the limit and numerals may be of any length.

Does not own: the grammar and its values. This module is the composition point of the reader's
soundness, its completeness and the unambiguity of the grammar.
-/

set_option autoImplicit false

namespace CounterMachine.Expression

open Text Source

/-- A text that is parsed spells a tree, and the parsed one means it. -/
theorem exists_spelledBy_of_parse {text : String} {tree : Expression}
    (parsed : parse text = .ok tree) :
    ∃ term, term.SpelledBy text.toList ∧ Means tree term := by
  unfold parse at parsed
  simp only at parsed
  split at parsed
  · cases parsed
  · cases parsed
  · rename_i known rest reach read
    split at parsed
    · rename_i ended
      cases parsed
      obtain ⟨_, same, before, body, rfl, isGap, term, derives, means⟩ :=
        (sum_sound _ (operand_sound _ nestingLimit) nestingLimit).skip read
      obtain ⟨after, isGapAfter, behind⟩ := rest.exists_gap
      rw [List.isEmpty_iff.mp ended, List.append_nil] at behind
      have spelled : text.toList = before ++ body ++ rest.text := same
      rw [behind] at spelled
      exact ⟨term, ⟨before, body, after, spelled, isGap, isGapAfter, derives⟩, means⟩
    · cases parsed

/-- A text that spells a tree is parsed, unless it is nested too deeply. -/
theorem exists_parse_of_spelledBy {text : String} {term : Term}
    (spelled : term.SpelledBy text.toList) (within : parse text ≠ .error .tooDeep) :
    ∃ tree, parse text = .ok tree := by
  obtain ⟨before, body, after, same, isGap, isGapAfter, derives⟩ := spelled
  have accepts := (hereditary_accepts text.toList.length).sum_holds derives nestingLimit
    nestingLimit
  have nothing : Followed sumEnds after := by
    have ends := (followed_append_iff isGapAfter).mpr (followed_nil sumEnds)
    rwa [List.append_nil] at ends
  have notDeep : sum (operand text.toList.length nestingLimit) text.toList.length nestingLimit
      (Cursor.skip ⟨0, text.toList⟩) ≠ .tooDeep := by
    intro deep
    simp only [parse, deep] at within
    exact within rfl
  have start : (⟨0, text.toList⟩ : Cursor).text = before ++ body ++ after := same
  obtain ⟨tree, final, reach, read, behind⟩ :=
    accepts.skip isGap derives.stops_gap start nothing (Nat.le_refl _) notDeep
  have ended : final.skip.text = [] := by
    rw [← List.append_nil after] at behind
    exact Cursor.skip_text behind isGapAfter stops_nil
  refine ⟨tree, ?_⟩
  simp only at read
  simp only [parse, read, ended, List.isEmpty_nil, if_true]

/-- The value of a parsed text is that of its tree, which must not be negative. -/
private theorem evaluate_eq_ok_of_parse {registers : String → Int} {text : String}
    {tree : Expression} (parsed : parse text = .ok tree) (value : Int) :
    evaluate .unlimited registers text = .ok value ↔
      (tree.value .unlimited registers).toOption = some value ∧ 0 ≤ value := by
  rw [evaluate, parsed, ok_bind]
  cases tree.value .unlimited registers with
  | error failure => simp [Except.toOption]
  | ok number =>
      rw [ok_bind]
      by_cases negative : number < 0
      · rw [if_pos negative]
        constructor
        · intro impossible
          cases impossible
        · rintro ⟨same, notNegative⟩
          cases same
          omega
      · rw [if_neg negative]
        constructor
        · intro same
          cases same
          exact ⟨rfl, by omega⟩
        · rintro ⟨same, -⟩
          cases same
          rfl

/-- Evaluation in terms of the grammar alone: the result is the value of the tree that the text
spells, if this is a natural number, and an error otherwise. Registers that the mapping does not
hold are zero. -/
theorem evaluate_eq_ok_iff (mapping : String → Option Int) (text : String)
    (within : evaluate .unlimited (fun name => (mapping name).getD 0) text ≠ .error .tooDeep) :
    let registers := fun name => (mapping name).getD 0
    (∀ value, evaluate .unlimited registers text = .ok value ↔
      ∃ term : Term, term.SpelledBy text.toList ∧ term.value? registers = some value ∧
        0 ≤ value) ∧
    (∀ term other : Term, term.SpelledBy text.toList → other.SpelledBy text.toList →
      other = term) ∧
    ((∃ error, evaluate .unlimited registers text = .error error) ↔
      ¬ ∃ term : Term, term.SpelledBy text.toList ∧
        ∃ value, term.value? registers = some value ∧ 0 ≤ value) := by
  intro registers
  have parsable : parse text ≠ .error .tooDeep := by
    intro deep
    rw [evaluate, deep] at within
    exact within rfl
  have values (value : Int) : evaluate .unlimited registers text = .ok value ↔
      ∃ term : Term, term.SpelledBy text.toList ∧ term.value? registers = some value ∧
        0 ≤ value := by
    constructor
    · intro evaluated
      obtain ⟨tree, parsed, -⟩ := bind_eq_ok.mp evaluated
      obtain ⟨term, spelled, means⟩ := exists_spelledBy_of_parse parsed
      rw [evaluate_eq_ok_of_parse parsed, means registers] at evaluated
      exact ⟨term, spelled, evaluated⟩
    · rintro ⟨term, spelled, valued⟩
      obtain ⟨tree, parsed⟩ := exists_parse_of_spelledBy spelled parsable
      obtain ⟨other, otherSpelled, means⟩ := exists_spelledBy_of_parse parsed
      rw [evaluate_eq_ok_of_parse parsed, means registers, spelled.unique otherSpelled]
      exact valued
  refine ⟨values, fun term other => Term.SpelledBy.unique, ?_⟩
  cases evaluated : evaluate .unlimited registers text with
  | ok value =>
      obtain ⟨term, spelled, valued⟩ := (values value).mp evaluated
      constructor
      · rintro ⟨error, impossible⟩
        cases impossible
      · intro none
        exact absurd ⟨term, spelled, value, valued⟩ none
  | error error =>
      constructor
      · rintro - ⟨term, spelled, value, valued⟩
        cases evaluated.symm.trans ((values value).mpr ⟨term, spelled, valued⟩)
      · intro _
        exact ⟨error, rfl⟩

/-- A mapping that holds a single register. -/
def singleRegister (held : String) (value : Int) (name : String) : Option Int :=
  if name = held then some value else none

/-- Marks with white space and without it, signs, a group, and calls in mixed letter case over a
register that the mapping holds and one that it does not hold. -/
theorem evaluate_eq_ok_nested :
    let registers := fun name => (singleRegister "r1" 9 name).getD 0
    let text := " MIN( R1 -2,maX (3,7 %4 ),R1/2)* - -(2+ r0)"
    evaluate .unlimited registers text ≠ .error .tooDeep ∧
      ∃ term : Term, term.SpelledBy text.toList ∧ term.value? registers = some 6 := by
  have evaluated : evaluate .unlimited (fun name => (singleRegister "r1" 9 name).getD 0)
      " MIN( R1 -2,maX (3,7 %4 ),R1/2)* - -(2+ r0)" = .ok 6 := by
    decide
  intro registers text
  have within : evaluate .unlimited registers text ≠ .error .tooDeep := by
    rw [evaluated]
    exact nofun
  obtain ⟨values, -⟩ := evaluate_eq_ok_iff (singleRegister "r1" 9) text within
  obtain ⟨term, spelled, valued, -⟩ := (values 6).mp evaluated
  exact ⟨within, term, spelled, valued⟩

end CounterMachine.Expression
