import CounterMachine.Proofs.Expression.Combinators
import CounterMachine.Proofs.Text.CaseFolding

/-!
Contract: expressions mean the same whatever the case of their letters.

Owns: that each part of the reader does the same at a place in a text and at that place in the text
with small letters; and that both texts therefore have one tree, or one error, and one value.

Does not own: letters outside ASCII, whose case is told apart only until names are lowered.
-/

set_option autoImplicit false

namespace CounterMachine.Expression

open Text Source

/-! ## Places and attempts with small letters -/

/-- The same place in the text with small letters. -/
def Cursor.foldCase (cursor : Cursor) : Cursor :=
  ⟨cursor.position, Text.foldCase cursor.text⟩

/-- What is read is the same, and so are all positions. -/
def Attempt.foldCase {Value : Type} : Attempt Value → Attempt Value
  | .read value rest reach => .read value rest.foldCase reach
  | .stuck reach => .stuck reach
  | .tooDeep => .tooDeep

@[simp]
theorem Attempt.foldCase_read {Value : Type} (value : Value) (rest : Cursor) (reach : Nat) :
    (Attempt.read value rest reach).foldCase = .read value rest.foldCase reach :=
  rfl

theorem Cursor.pass_foldCase {belongs : Char → Bool} (blind : CaseBlind belongs)
    (cursor : Cursor) : cursor.foldCase.pass belongs = (cursor.pass belongs).foldCase := by
  simp only [Cursor.foldCase, pass, blind.takeWhile, blind.dropWhile, length_foldCase]

theorem Cursor.skip_foldCase (cursor : Cursor) : cursor.foldCase.skip = cursor.skip.foldCase :=
  cursor.pass_foldCase caseBlind_isWhiteSpace

section Attempts

variable {Value Result : Type}

theorem map_foldCase (convert : Value → Result) (attempt : Attempt Value) :
    attempt.foldCase.map convert = (attempt.map convert).foldCase := by
  cases attempt with
  | read value rest reach => rfl
  | stuck reach => rfl
  | tooDeep => rfl

theorem enter_foldCase {cost room : Nat} {attempt folded : Nat → Attempt Value}
    (same : ∀ room, folded room = (attempt room).foldCase) :
    enter cost room folded = (enter cost room attempt).foldCase := by
  unfold enter
  split
  · rfl
  · exact same _

theorem stops_foldCase {belongs : Char → Bool} (blind : CaseBlind belongs) {text : List Char} :
    Stops belongs (Text.foldCase text) ↔ Stops belongs text := by
  cases text with
  | nil => exact Iff.rfl
  | cons character behind =>
      rw [Text.foldCase, List.map_cons, stops_cons, stops_cons, blind]

theorem closed_foldCase (attempt : Attempt Value) :
    closed attempt.foldCase = (closed attempt).foldCase := by
  cases attempt with
  | stuck reach => rfl
  | tooDeep => rfl
  | read value rest reach =>
      have next : rest.foldCase.skip.text = Text.foldCase rest.skip.text :=
        congrArg Cursor.text rest.skip_foldCase
      rw [Attempt.foldCase_read]
      by_cases unclosed : Stops (· == ')') rest.skip.text
      · have foldedUnclosed : Stops (· == ')') rest.foldCase.skip.text := by
          rw [next]
          exact (stops_foldCase (caseBlind_eq (by decide))).mpr unclosed
        rw [closed_of_unclosed unclosed, closed_of_unclosed foldedUnclosed]
        rfl
      · obtain ⟨behind, closing⟩ := exists_of_not_stops unclosed
        rw [closing] at next
        rw [closed_of_read closing, closed_of_read next, rest.skip_foldCase]
        rfl

end Attempts

/-! ## Chains -/

section Chains

variable {Operator : Type} {operator? : Char → Option Operator}

/-- By induction on the fuel, one operator and one operand at a time. -/
theorem laterOperands_foldCase (blind : CaseBlind operator?)
    {operand : Cursor → Attempt Expression}
    (folds : ∀ cursor, operand cursor.foldCase = (operand cursor).foldCase)
    (fuel : Nat) (cursor : Cursor) (reach : Nat) :
    laterOperands operator? operand fuel cursor.foldCase reach =
      (laterOperands operator? operand fuel cursor reach).foldCase := by
  induction fuel generalizing cursor reach with
  | zero => rfl
  | succ fuel inductionHypothesis =>
      have visible : cursor.foldCase.text.isEmpty = cursor.text.isEmpty := List.isEmpty_map
      rw [laterOperands, laterOperands, visible]
      split
      · rfl
      · dsimp only
        rw [cursor.skip_foldCase]
        obtain ⟨position, text⟩ := cursor.skip
        cases text with
        | nil => rfl
        | cons character behind =>
            have next := (Cursor.mk (position + 1) behind).skip_foldCase
            simp only [Cursor.foldCase, Text.foldCase, List.map_cons, blind character]
            cases operator? character with
            | none => rfl
            | some operator =>
                dsimp only [Cursor.foldCase, Text.foldCase] at next ⊢
                rw [next]
                have read := folds (Cursor.skip ⟨position + 1, behind⟩)
                dsimp only [Cursor.foldCase, Text.foldCase] at read
                rw [read]
                cases operand (Cursor.skip ⟨position + 1, behind⟩) with
                | tooDeep => rfl
                | stuck deeper => rfl
                | read value rest deeper =>
                    rw [Attempt.foldCase_read]
                    dsimp only
                    rw [inductionHypothesis]
                    cases laterOperands operator? operand fuel rest (max reach deeper) with
                    | tooDeep => rfl
                    | stuck furthest => rfl
                    | read values final furthest => rfl

variable {operand : Nat → Cursor → Attempt Expression}

theorem chainOf_foldCase (blind : CaseBlind operator?)
    (folds : ∀ room cursor, operand room cursor.foldCase = (operand room cursor).foldCase)
    (size room : Nat) (cursor : Cursor) :
    chainOf operator? operand size room cursor.foldCase =
      (chainOf operator? operand size room cursor).foldCase := by
  rw [chainOf_eq, chainOf_eq, folds]
  cases operand room cursor with
  | tooDeep => rfl
  | stuck reach => rfl
  | read first rest reach =>
      rw [Attempt.foldCase_read]
      dsimp only
      rw [laterOperands_foldCase blind fun following =>
        enter_foldCase fun room => folds room following, map_foldCase]

theorem product_foldCase
    (folds : ∀ room cursor, operand room cursor.foldCase = (operand room cursor).foldCase)
    (size room : Nat) (cursor : Cursor) :
    product operand size room cursor.foldCase = (product operand size room cursor).foldCase := by
  have blind : CaseBlind BinaryOperator.multiplicative? := .of_capitals (by decide)
  rw [product, chainOf_foldCase blind folds, map_foldCase, product]

theorem sum_foldCase
    (folds : ∀ room cursor, operand room cursor.foldCase = (operand room cursor).foldCase)
    (size room : Nat) (cursor : Cursor) :
    sum operand size room cursor.foldCase = (sum operand size room cursor).foldCase := by
  have blind : CaseBlind BinaryOperator.additive? := .of_capitals (by decide)
  rw [sum, chainOf_foldCase blind (product_foldCase folds size), map_foldCase, sum]

theorem arguments_foldCase
    (folds : ∀ room cursor, operand room cursor.foldCase = (operand room cursor).foldCase)
    (size room : Nat) (cursor : Cursor) :
    arguments operand size room cursor.foldCase =
      (arguments operand size room cursor).foldCase := by
  have blind : CaseBlind separator? := .of_capitals (by decide)
  rw [arguments, chainOf_foldCase blind (sum_foldCase folds size), map_foldCase, arguments]

end Chains

/-! ## Operands -/

theorem caseBlind_startsPhrase : CaseBlind startsPhrase :=
  .of_capitals (by decide)

theorem caseBlind_startsName : CaseBlind startsName :=
  .of_capitals (by decide)

/-- Digits are not letters. -/
theorem takeWhile_isDigit_foldCase (text : List Char) :
    (Text.foldCase text).takeWhile Char.isDigit = text.takeWhile Char.isDigit := by
  rw [caseBlind_isDigit.takeWhile]
  apply foldCase_of_forall
  intro character member
  have digit : character.isDigit = true := List.all_eq_true.mp List.all_takeWhile _ member
  cases letter : character.isAlpha with
  | false => rfl
  | true =>
      have starts : startsName character = true := by rw [startsName, letter, Bool.true_or]
      cases digit.symm.trans (isDigit_of_startsName starts)

/-- What follows a name decides whether it is a call, and does so in either case. -/
private theorem name_foldCase {size levels : Nat}
    (folds : ∀ room cursor,
      operand size levels room cursor.foldCase = (operand size levels room cursor).foldCase)
    (room position : Nat) {character : Char} (starts : startsName character = true)
    (following : List Char) :
    operand size (levels + 1) room ⟨position, character.toLower :: Text.foldCase following⟩ =
      (operand size (levels + 1) room ⟨position, character :: following⟩).foldCase := by
  have foldedStarts : startsName character.toLower = true :=
    (caseBlind_startsName character).trans starts
  have taken : (character.toLower :: Text.foldCase following).takeWhile isWord =
      Text.foldCase ((character :: following).takeWhile isWord) :=
    caseBlind_isWord.takeWhile (character :: following)
  have passed : Cursor.pass isWord ⟨position, character.toLower :: Text.foldCase following⟩ =
      (Cursor.pass isWord ⟨position, character :: following⟩).foldCase :=
    (Cursor.mk position (character :: following)).pass_foldCase caseBlind_isWord
  generalize behind : Cursor.pass isWord ⟨position, character :: following⟩ = next at passed
  have foldedNext : next.foldCase.skip.text = Text.foldCase next.skip.text :=
    congrArg Cursor.text next.skip_foldCase
  by_cases uncalled : Stops (· == '(') next.skip.text
  · have foldedUncalled : Stops (· == '(') next.foldCase.skip.text := by
      rw [foldedNext]
      exact (stops_foldCase (caseBlind_eq (by decide))).mpr uncalled
    rw [operand_of_uncalled starts rfl behind uncalled,
      operand_of_uncalled foldedStarts taken passed foldedUncalled, lowered_foldCase]
    rfl
  · obtain ⟨later, opened⟩ := exists_of_not_stops uncalled
    have foldedOpened : next.foldCase.skip.text = '(' :: Text.foldCase later := by
      rw [foldedNext, opened]
      rfl
    have inside : Cursor.skip ⟨next.foldCase.skip.position + 1, Text.foldCase later⟩ =
        (Cursor.skip ⟨next.skip.position + 1, later⟩).foldCase := by
      rw [next.skip_foldCase]
      exact (Cursor.mk (next.skip.position + 1) later).skip_foldCase
    rw [operand_of_called size levels room starts rfl behind opened,
      operand_of_called size levels room foldedStarts taken passed foldedOpened, inside,
      enter_foldCase fun room => arguments_foldCase folds size room _, closed_foldCase,
      lowered_foldCase]
    cases closed (enter 6 room fun room => arguments (operand size levels) size room
        (Cursor.skip ⟨next.skip.position + 1, later⟩)) with
    | tooDeep => rfl
    | stuck reach => rfl
    | read value rest reach => rfl

/-- By induction on the levels, by the first character of the operand. -/
theorem operand_foldCase (size levels room : Nat) (cursor : Cursor) :
    operand size levels room cursor.foldCase = (operand size levels room cursor).foldCase := by
  induction levels generalizing room cursor with
  | zero => rfl
  | succ levels inductionHypothesis =>
      obtain ⟨position, text⟩ := cursor
      cases text with
      | nil => rfl
      | cons character following =>
          have inside : Cursor.skip ⟨position + 1, Text.foldCase following⟩ =
              (Cursor.skip ⟨position + 1, following⟩).foldCase :=
            (Cursor.mk (position + 1) following).skip_foldCase
          show operand size (levels + 1) room
            ⟨position, character.toLower :: Text.foldCase following⟩ = _
          by_cases phrase : startsPhrase character = true
          · simp only [startsPhrase, Bool.or_eq_true, beq_iff_eq] at phrase
            rcases phrase with ((digit | rfl) | rfl) | starts
            · have foldedDigit : character.toLower.isDigit = true :=
                (caseBlind_isDigit character).trans digit
              have digits := takeWhile_isDigit_foldCase (character :: following)
              have passed :=
                (Cursor.mk position (character :: following)).pass_foldCase caseBlind_isDigit
              rw [operand_of_isDigit digit, operand_of_isDigit foldedDigit]
              exact congrArg₂ (Attempt.read · · position)
                (congrArg Expression.literal digits) passed
            · show operand size (levels + 1) room ⟨position, '-' :: Text.foldCase following⟩ = _
              rw [operand_of_minus, operand_of_minus, inside,
                enter_foldCase fun room => inductionHypothesis room _, map_foldCase]
            · show operand size (levels + 1) room ⟨position, '(' :: Text.foldCase following⟩ = _
              rw [operand_of_parenthesis, operand_of_parenthesis, inside,
                enter_foldCase fun room => sum_foldCase inductionHypothesis size room _,
                closed_foldCase]
            · exact name_foldCase inductionHypothesis room position starts following
          · have foldedPhrase : ¬ startsPhrase character.toLower = true := by
              rw [caseBlind_startsPhrase]
              exact phrase
            rw [operand_of_other (Bool.eq_false_iff.mpr phrase),
              operand_of_other (Bool.eq_false_iff.mpr foldedPhrase)]
            rfl

/-- The tree of an expression, or the error, does not depend on the case of its letters. -/
theorem parse_toLower (text : String) : parse text.toLower = parse text := by
  have start : Cursor.skip ⟨0, Text.foldCase text.toList⟩ =
      (Cursor.skip ⟨0, text.toList⟩).foldCase := (Cursor.mk 0 text.toList).skip_foldCase
  rw [parse, parse, toList_toLower]
  dsimp only
  rw [length_foldCase, start, sum_foldCase (operand_foldCase text.toList.length nestingLimit)]
  cases sum (operand text.toList.length nestingLimit) text.toList.length nestingLimit
      (Cursor.skip ⟨0, text.toList⟩) with
  | tooDeep => rfl
  | stuck reach => rfl
  | read tree rest reach =>
      rw [Attempt.foldCase_read]
      dsimp only
      have final : rest.foldCase.skip.text.isEmpty = rest.skip.text.isEmpty := by
        rw [rest.skip_foldCase]
        exact List.isEmpty_map
      rw [final, rest.skip_foldCase]
      rfl

/-- The value of an expression does not depend on the case of its letters. -/
theorem evaluate_toLower (limit : DigitLimit) (registers : String → Int) (text : String) :
    evaluate limit registers text.toLower = evaluate limit registers text := by
  rw [evaluate, parse_toLower, evaluate]

end CounterMachine.Expression
