import CounterMachine.Linking
import CounterMachine.Proofs.Source.FoldedTokens

/-!
Contract: linking does not look at the texts that tokens quote.

Owns: that tokens and the same tokens with small letters in the texts that they quote are linked to
programs that differ in no more than these, or are refused for one error.

Does not own: names, which are told apart by linking and left alone here.
-/

set_option autoImplicit false

namespace CounterMachine

open Text

theorem attach_foldCase (label : Option String) (traced : Bool) (tokens : List (Token Target)) :
    attach label traced (tokens.map Token.foldCase) =
      (attach label traced tokens).map Instruction.foldCase := by
  induction tokens generalizing label traced with
  | nil => rfl
  | cons token later inductionHypothesis =>
      cases token with
      | label name text line => exact inductionHypothesis (some name) traced
      | trace text line => exact inductionHypothesis label true
      | instruction body => exact congrArg (_ :: ·) (inductionHypothesis none false)

theorem labelsFrom_foldCase (index : Nat) (labels : Table Nat) (tokens : List (Token Target)) :
    labelsFrom index labels (tokens.map Token.foldCase) = labelsFrom index labels tokens := by
  induction tokens generalizing index labels with
  | nil => rfl
  | cons token later inductionHypothesis =>
      cases token with
      | label name text line => exact inductionHypothesis index (labels.insert name index)
      | trace text line => exact inductionHypothesis index labels
      | instruction body => exact inductionHypothesis (index + 1) labels

theorem Operation.mapOperands_foldCase {Jump Other Failure : Type}
    (resolve : Jump → Except Failure Other) (operation : Operation Jump) :
    operation.foldCase.mapOperands resolve =
      (operation.mapOperands resolve).map Operation.foldCase := by
  cases operation with
  | init register value => rfl
  | inc register next =>
      simp only [foldCase, mapOperands]
      cases resolve next with
      | error failure => rfl
      | ok place => rfl
  | dec register onPositive onZero =>
      simp only [foldCase, mapOperands]
      cases resolve onPositive with
      | error failure => rfl
      | ok place =>
          cases resolve onZero with
          | error failure => rfl
          | ok otherPlace => rfl
  | halt reason => rfl
  | eval description register code => rfl

theorem linkFrom_foldCase (limit : DigitLimit) (labels : Table Nat) (size index : Nat)
    (instructions : List (Instruction Target)) :
    linkFrom limit labels size index (instructions.map Instruction.foldCase) =
      (linkFrom limit labels size index instructions).map (List.map Instruction.foldCase) := by
  induction instructions generalizing index with
  | nil => rfl
  | cons body later inductionHypothesis =>
      rw [List.map_cons, linkFrom, linkFrom, inductionHypothesis (index + 1)]
      simp only [Instruction.foldCase, Operation.mapOperands_foldCase]
      cases body.operation.mapOperands (resolveTarget limit labels size index body.line) with
      | error failure => rfl
      | ok operation =>
          cases linkFrom limit labels size (index + 1) later with
          | error failure => rfl
          | ok rest => rfl

/-- Tokens with small letters in the texts that they quote are linked alike. -/
theorem link_foldCase (limit : DigitLimit) (tokens : List (Token Target)) :
    link limit (tokens.map Token.foldCase) =
      (link limit tokens).map (List.map Instruction.foldCase) := by
  rw [link, attach_foldCase, labelTable, labelsFrom_foldCase, List.length_map]
  exact linkFrom_foldCase limit _ _ 0 _

end CounterMachine
