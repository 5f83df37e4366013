import CounterMachine.Proofs.Expression.Grammar
import CounterMachine.Proofs.Sequencing
import CounterMachine.Proofs.Text.AsciiLetters
import Mathlib.Data.Bool.AllAny

/-!
Contract: the flat trees of the reader against the trees of the grammar.

Owns: when a tree with chains means the same as a tree with two operands per operator, and that
chains, calls and names that mean the same part by part mean the same as a whole.

Does not own: texts. Which trees the reader makes of a text is no matter here.

## Why only the values are compared

A chain evaluates all its operands before its first operator, and a call all its arguments
before its function is looked up. So the two trees may fail for different reasons, but one of
them fails exactly when the other one does.
-/

set_option autoImplicit false

namespace CounterMachine.Expression

open Text Source

/-- The trees have the same value over all registers, or both have none. -/
def Means (tree : Expression) (term : Term) : Prop :=
  ∀ registers, (tree.value .unlimited registers).toOption = term.value? registers

/-- Operands behind the same operator that mean the same. -/
def Corresponds {Operator : Type} (operand : Operator × Expression) (term : Operator × Term) :
    Prop :=
  operand.1 = term.1 ∧ Means operand.2 term.2

variable {registers : String → Int}

theorem toOption_bind {Failure First Second : Type} (first : Except Failure First)
    (next : First → Except Failure Second) :
    (first >>= next).toOption = first.toOption.bind fun value => (next value).toOption := by
  cases first with
  | ok value => rfl
  | error failure => rfl

/-- An operator has a result unless it divides by zero. -/
theorem toOption_apply (left right : Int) (operator : BinaryOperator) :
    (operator.apply left right).toOption = result? left right operator := by
  cases operator with
  | plus => rfl
  | minus => rfl
  | times => rfl
  | «over» =>
      simp only [BinaryOperator.apply, result?]
      split
      · rfl
      · rfl
  | modulo =>
      simp only [BinaryOperator.apply, result?]
      split
      · rfl
      · rfl

/-! ## Chains -/

/-- The operators of a chain applied to its values, if it has them all. -/
private def chainValue? (registers : String → Int) (others : List (BinaryOperator × Expression))
    (left : Int) : Option Int :=
  (operandValues .unlimited registers others).toOption.bind fun numbers =>
    (BinaryOperator.applyAll left numbers).toOption

/-- It makes no difference that the first operator is applied after the last operand is
evaluated. -/
private theorem chainValue?_cons (operator : BinaryOperator) (operand : Expression)
    (later : List (BinaryOperator × Expression)) (left : Int) :
    chainValue? registers ((operator, operand) :: later) left =
      (operand.value .unlimited registers).toOption.bind fun right =>
        (result? left right operator).bind (chainValue? registers later) := by
  unfold chainValue?
  rw [operandValues, toOption_bind, Option.bind_assoc]
  congr 1
  funext right
  rw [toOption_bind, Option.bind_assoc, ← toOption_apply]
  cases applied : operator.apply left right with
  | ok value =>
      simp only [pure_eq_ok, Except.toOption, Option.bind_some, BinaryOperator.applyAll, applied,
        ok_bind]
  | error failure =>
      simp only [pure_eq_ok, Except.toOption, Option.bind_some, BinaryOperator.applyAll, applied,
        error_bind, Option.bind_none, Option.bind_fun_none]

/-- By induction on the chain, for every operand in front of it. -/
private theorem value?_joined {first : Term} {others : List (BinaryOperator × Expression)}
    {terms : List (BinaryOperator × Term)} (correspond : List.Forall₂ Corresponds others terms) :
    (joined first terms).value? registers =
      (first.value? registers).bind (chainValue? registers others) := by
  induction correspond generalizing first with
  | nil => exact (Option.bind_fun_some _).symm
  | @cons operand term others terms corresponds _ inductionHypothesis =>
      obtain ⟨operator, operand⟩ := operand
      obtain ⟨_, term⟩ := term
      obtain ⟨rfl, means⟩ := corresponds
      rw [joined_cons, inductionHypothesis, Term.value?]
      simp only [Option.bind_eq_bind, Option.bind_assoc]
      congr 1
      funext left
      rw [chainValue?_cons, means registers]

theorem means_chained {first : Expression} {others : List (BinaryOperator × Expression)}
    {firstTerm : Term} {terms : List (BinaryOperator × Term)} (means : Means first firstTerm)
    (correspond : List.Forall₂ Corresponds others terms) :
    Means (chained (first, others)) (joined firstTerm terms) := by
  intro registers
  rw [value?_joined correspond, ← means registers]
  cases others with
  | nil => exact (Option.bind_fun_some _).symm
  | cons operand later =>
      rw [chained, value, toOption_bind]
      · congr 1
        funext left
        exact toOption_bind _ _
      · intro impossible
        cases impossible

/-! ## Operands -/

theorem means_literal (digits : List Char) : Means (.literal digits) (.literal digits) := by
  intro registers
  rw [value, readNumeral?_unlimited, Term.value?]
  rfl

theorem means_register (letters : List Char) :
    Means (.register (lowered letters)) (.identifier letters) := by
  intro registers
  rw [value, Term.value?]
  rfl

theorem means_negation {operand : Expression} {term : Term} (means : Means operand term) :
    Means (.negation operand) (.negation term) := by
  intro registers
  rw [value, Term.value?, toOption_bind, means registers]
  rfl

/-! ## Calls -/

private theorem toOption_argumentValues {others : List Expression} {terms : List Term}
    (means : List.Forall₂ Means others terms) :
    (argumentValues .unlimited registers others).toOption = Term.values? registers terms := by
  induction means with
  | nil => rfl
  | cons first later inductionHypothesis =>
      rw [argumentValues, Term.values?, toOption_bind, first registers]
      congr 1
      funext number
      rw [toOption_bind, inductionHypothesis]
      rfl

/-- The name of a function is known in lower case exactly when it is known in any letter
case. -/
private theorem function?_lowered (letters : List Char) :
    function? (lowered letters) =
      (choice? letters).map fun choose first others => others.foldl choose first := by
  have spelled (small : List Char) (ascii : ∀ letter ∈ small, IsAsciiSmall letter) :
      lowered letters = String.ofList small ↔ letters.map Char.toLower = small := by
    rw [← lowerFrom_eq_iff ascii, ← String.toList_inj, lowered, String.toList_ofList,
      String.toList_ofList]
    exact Iff.rfl
  have minimum := spelled ['m', 'i', 'n'] (List.all_iff_forall_prop.mp (by decide))
  have maximum := spelled ['m', 'a', 'x'] (List.all_iff_forall_prop.mp (by decide))
  unfold function? choice?
  split
  · rename_i same
    rw [if_pos (minimum.mp same)]
    rfl
  · rename_i same
    have other : ¬ letters.map Char.toLower = ['m', 'i', 'n'] := by
      rw [maximum.mp same]
      decide
    rw [if_neg other, if_pos (maximum.mp same)]
    rfl
  · rename_i notMinimum notMaximum
    rw [if_neg (mt minimum.mpr notMinimum), if_neg (mt maximum.mpr notMaximum)]
    rfl

theorem means_call {letters : List Char} {first : Expression} {others : List Expression}
    {firstTerm : Term} {terms : List Term} (means : Means first firstTerm)
    (othersMean : List.Forall₂ Means others terms) :
    Means (.call (lowered letters) first others) (.call letters firstTerm terms) := by
  intro registers
  rw [value, Term.value?, toOption_bind, means registers]
  congr 1
  funext number
  rw [toOption_bind, toOption_argumentValues othersMean, function?_lowered]
  congr 1
  funext numbers
  cases choice? letters with
  | none => rfl
  | some choose => rfl

end CounterMachine.Expression
