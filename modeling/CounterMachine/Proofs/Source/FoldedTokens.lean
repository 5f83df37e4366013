import CounterMachine.Proofs.Sequencing
import CounterMachine.Proofs.Source.CaseFolding

/-!
Contract: the tokens of a text, whatever the case of its letters.

Owns: operations, instructions, tokens and parse errors with small letters in the texts that they
quote; and that a text and the same text with small letters are parsed to tokens, or refused for
errors, that differ in no more than these.

Does not own: names of registers and labels. Tokens have them in lower case already.
-/

set_option autoImplicit false

namespace CounterMachine

open Text Source

/-! ## Quoted texts with small letters -/

section Folded

variable {Jump : Type}

/-- Descriptions, reasons and the text of an expression are quoted from the source. -/
def Operation.foldCase : Operation Jump → Operation Jump
  | .init register value => .init register value
  | .inc register next => .inc register next
  | .dec register onPositive onZero => .dec register onPositive onZero
  | .halt reason => .halt reason.toLower
  | .eval description register code => .eval description.toLower register code.toLower

def Instruction.foldCase (body : Instruction Jump) : Instruction Jump :=
  { body with operation := body.operation.foldCase, text := body.text.toLower }

def Token.foldCase : Token Jump → Token Jump
  | .label name text line => .label name text.toLower line
  | .trace text line => .trace text.toLower line
  | .instruction body => .instruction body.foldCase

def ParseError.foldCase (error : ParseError) : ParseError :=
  { error with remainder := error.remainder.toLower }

/-- The tokens or the error, with small letters in the texts that they quote. -/
def foldedTokens (parsed : Except ParseError (List (Token Target))) :
    Except ParseError (List (Token Target)) :=
  converted (List.map Token.foldCase) ParseError.foldCase parsed

end Folded

namespace Source

/-! ## Integer literals -/

def IntegerLiteral.foldCase (literal : IntegerLiteral) : IntegerLiteral :=
  ⟨literal.sign, Text.foldCase literal.digits, Text.foldCase literal.after⟩

theorem WrittenTarget.literals_foldCase (target : WrittenTarget) (after : List Char) :
    target.foldCase.literals (Text.foldCase after) =
      (target.literals after).map IntegerLiteral.foldCase := by
  cases target with
  | offset negative digits => rfl
  | word letters => rfl

theorem WrittenArms.literals_foldCase (arms : WrittenArms) :
    arms.foldCase.literals = arms.literals.map IntegerLiteral.foldCase := by
  cases arms with
  | both onPositive beforeComma afterComma onZero =>
      have behind : Text.foldCase beforeComma ++
            ',' :: Text.foldCase afterComma ++ Text.foldCase onZero.render =
          Text.foldCase (beforeComma ++ ',' :: afterComma ++ onZero.render) := by
        simp only [foldCase_append]
        rfl
      rw [WrittenArms.foldCase, literals, WrittenTarget.render_foldCase, behind,
        WrittenTarget.literals_foldCase, literals, List.map_append]
      exact congrArg _ (onZero.literals_foldCase [])
  | zeroOnly afterComma onZero => exact onZero.literals_foldCase []
  | positiveOnly onPositive beforeComma =>
      cases beforeComma with
      | none => exact onPositive.literals_foldCase []
      | some gap =>
          have behind : Text.foldCase gap ++ [','] = Text.foldCase (gap ++ [',']) :=
            (foldCase_append gap [',']).symm
          rw [WrittenArms.foldCase, Option.map_some, literals, behind,
            WrittenTarget.literals_foldCase, literals]

theorem Item.literals_foldCase (item : Item) :
    item.foldCase.literals = item.literals.map IntegerLiteral.foldCase := by
  cases item with
  | newline => rfl
  | comment body => rfl
  | space body => rfl
  | label name => rfl
  | trace keyword => rfl
  | init keyword beforeRegister register beforeValue digits => rfl
  | inc register jump =>
      cases jump with
      | none => rfl
      | some arrow => exact arrow.operand.literals_foldCase []
  | dec register jump =>
      cases jump with
      | none => rfl
      | some arrow => exact arrow.operand.literals_foldCase
  | halt keyword reason => rfl
  | eval keyword beforeDescription description beforeRegister register beforeSign afterSign code =>
      rfl

/-! ## Tokens -/

theorem WrittenTarget.target_foldCase (target : WrittenTarget) :
    target.foldCase.target = target.target := by
  cases target with
  | offset negative digits =>
      cases negative with
      | false => simp only [foldCase, target, numeralValue_foldCase]
      | true => simp only [foldCase, target, numeralValue_foldCase]
  | word letters => exact congrArg Target.name (lowered_foldCase letters)

theorem WrittenArms.targets_foldCase (arms : WrittenArms) :
    arms.foldCase.targets = arms.targets := by
  cases arms with
  | both onPositive beforeComma afterComma onZero =>
      simp only [foldCase, targets, WrittenTarget.target_foldCase]
  | zeroOnly afterComma onZero => simp only [foldCase, targets, WrittenTarget.target_foldCase]
  | positiveOnly onPositive beforeComma =>
      simp only [foldCase, targets, WrittenTarget.target_foldCase]

/-- Registers and operands are the same, and the quoted texts differ in case only. -/
theorem Item.operation?_foldCase (item : Item) :
    item.foldCase.operation?.map Operation.foldCase = item.operation?.map Operation.foldCase := by
  cases item with
  | newline => rfl
  | comment body => rfl
  | space body => rfl
  | label name => rfl
  | trace keyword => rfl
  | init keyword beforeRegister register beforeValue digits =>
      simp only [foldCase, operation?, lowered_foldCase, numeralValue_foldCase]
  | inc register jump =>
      cases jump with
      | none => simp only [foldCase, Option.map_none, operation?, lowered_foldCase]
      | some arrow =>
          simp only [foldCase, Option.map_some, operation?, lowered_foldCase, Arrow.foldCase,
            WrittenTarget.target_foldCase]
  | dec register jump =>
      cases jump with
      | none => simp only [foldCase, Option.map_none, operation?, lowered_foldCase]
      | some arrow =>
          simp only [foldCase, Option.map_some, operation?, lowered_foldCase, Arrow.foldCase,
            WrittenArms.targets_foldCase]
  | halt keyword reason =>
      cases reason with
      | none => rfl
      | some parts =>
          simp only [foldCase, Option.map_some, Prod.map, operation?, Operation.foldCase,
            toLower_ofList_foldCase]
  | eval keyword beforeDescription description beforeRegister register beforeSign afterSign code =>
      simp only [foldCase, Option.map_some, operation?, Operation.foldCase, lowered_foldCase,
        strip_foldCase, toLower_ofList_foldCase]

private theorem token?_of_operation (item : Item) (line : Int) (text : String) :
    (item.operation?.map fun operation =>
        Token.instruction ⟨operation, text, line, false, none⟩).map Token.foldCase =
      (item.operation?.map Operation.foldCase).map fun operation =>
        Token.instruction ⟨operation, text.toLower, line, false, none⟩ := by
  rw [Option.map_map, Option.map_map]
  rfl

/-- An item stands for the same token in either case, but for the texts that are quoted. -/
theorem Item.token?_foldCase (line : Int) (item : Item) :
    (item.foldCase.token? line).map Token.foldCase = (item.token? line).map Token.foldCase := by
  have text : (String.ofList item.foldCase.render).toLower =
      (String.ofList item.render).toLower := by
    rw [item.render_foldCase, toLower_ofList_foldCase]
  have operation := item.operation?_foldCase
  cases item with
  | label name =>
      simp only [foldCase, token?, Option.map_some, Token.foldCase, lowered_foldCase] at text ⊢
      rw [text]
  | trace keyword =>
      simp only [foldCase, token?, Option.map_some, Token.foldCase] at text ⊢
      rw [text]
  | _ =>
      exact (token?_of_operation _ line _).trans
        ((congrArg₂ _ (by rw [text]) operation).trans (token?_of_operation _ line _).symm)

/-! ## Parsing -/

/-- By induction on the items. The line of an item depends on the texts before it only through
their line ends, and literals have the same digits. -/
theorem tokensFrom_foldCase (limit : DigitLimit) (file : String) (line : Nat) (items : List Item) :
    foldedTokens (tokensFrom limit file line (items.map Item.foldCase)) =
      foldedTokens (tokensFrom limit file line items) := by
  induction items generalizing line with
  | nil => rfl
  | cons item later inductionHypothesis =>
      have digits : (fun literal : IntegerLiteral => !limit.admits literal.digits.length) ∘
            IntegerLiteral.foldCase =
          fun literal => !limit.admits literal.digits.length := by
        funext literal
        simp only [Function.comp_apply, IntegerLiteral.foldCase, length_foldCase]
      rw [List.map_cons, tokensFrom, tokensFrom, item.literals_foldCase, List.find?_map, digits]
      cases item.literals.find? fun literal => !limit.admits literal.digits.length with
      | some literal =>
          refine converted_eq_iff.mpr (.inr ⟨_, _, rfl, rfl, ?_⟩)
          simp only [ParseError.foldCase, IntegerLiteral.text,
            IntegerLiteral.foldCase, renderItems_foldCase, toLower_ofList, foldCase_append,
            foldCase_foldCase, List.length_append, length_foldCase]
      | none =>
          have rest := inductionHypothesis (line + newlines item.render)
          have front := congrArg Option.toList (item.token?_foldCase line)
          rw [Option.toList_map, Option.toList_map] at front
          dsimp only [Option.map_none]
          rw [item.render_foldCase, newlines_foldCase]
          rcases converted_eq_iff.mp rest with
            ⟨tokens, otherTokens, read, otherRead, same⟩ |
              ⟨error, otherError, read, otherRead, same⟩
          · rw [read, otherRead]
            refine converted_eq_iff.mpr (.inl ⟨_, _, rfl, rfl, ?_⟩)
            rw [List.map_append, List.map_append, front, same]
          · rw [read, otherRead]
            exact converted_eq_iff.mpr (.inr ⟨_, _, rfl, rfl, same⟩)

end Source

/-- A text is parsed in the same way in either case, but for the texts that are quoted. -/
theorem parse_toLower (limit : DigitLimit) (source file : String) :
    foldedTokens (parse limit source.toLower file) = foldedTokens (parse limit source file) := by
  unfold parse
  rw [toList_toLower, scan_foldCase]
  obtain ⟨items, remainder⟩ := scan source.toList
  cases remainder with
  | nil => exact tokensFrom_foldCase limit file 1 items
  | cons first later =>
      refine converted_eq_iff.mpr (.inr ⟨_, _, rfl, rfl, ?_⟩)
      simp only [ParseError.foldCase, renderItems_foldCase, newlines_foldCase,
        toLower_ofList_foldCase]

end CounterMachine
