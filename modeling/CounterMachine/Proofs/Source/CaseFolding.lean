import CounterMachine.Proofs.Source.Operands
import CounterMachine.Proofs.Text.CaseFolding
import CounterMachine.Source.Tokens

/-!
Contract: items are read in the same way whatever the case of their letters.

Owns: the item with small letters in place of ASCII capitals; that each reader reads a text with
small letters as it reads the text itself; and that therefore the same items are scanned, but for
the case of their letters.

Does not own: the tokens that items stand for.

## Why equations and not conditions on what is read

What a reader reads depends on the text behind. An equation between what is read of two texts says
at once that both are read and that neither is, and it is kept by each step of a reader.
-/

set_option autoImplicit false

namespace CounterMachine.Source

open Text

/-! ## Items with small letters -/

namespace WrittenTarget

def foldCase : WrittenTarget → WrittenTarget
  | .offset negative digits => .offset negative (Text.foldCase digits)
  | .word letters => .word (Text.foldCase letters)

theorem render_foldCase (target : WrittenTarget) :
    target.foldCase.render = Text.foldCase target.render := by
  cases target with
  | offset negative digits =>
      cases negative with
      | false => rfl
      | true => rfl
  | word letters => rfl

end WrittenTarget

namespace WrittenArms

def foldCase : WrittenArms → WrittenArms
  | .both onPositive beforeComma afterComma onZero =>
      .both onPositive.foldCase (Text.foldCase beforeComma) (Text.foldCase afterComma)
        onZero.foldCase
  | .zeroOnly afterComma onZero => .zeroOnly (Text.foldCase afterComma) onZero.foldCase
  | .positiveOnly onPositive beforeComma =>
      .positiveOnly onPositive.foldCase (beforeComma.map Text.foldCase)

theorem render_foldCase (arms : WrittenArms) :
    arms.foldCase.render = Text.foldCase arms.render := by
  cases arms with
  | both onPositive beforeComma afterComma onZero =>
      simp only [foldCase, render, WrittenTarget.render_foldCase, foldCase_append]
      rfl
  | zeroOnly afterComma onZero =>
      simp only [foldCase, render, WrittenTarget.render_foldCase]
      exact (foldCase_append (',' :: afterComma) onZero.render).symm
  | positiveOnly onPositive beforeComma =>
      cases beforeComma with
      | none => exact onPositive.render_foldCase
      | some gap =>
          simp only [foldCase, Option.map_some, render, WrittenTarget.render_foldCase,
            foldCase_append]
          rfl

end WrittenArms

namespace Arrow

variable {Operand : Type}

def foldCase (foldOperand : Operand → Operand) (arrow : Arrow Operand) : Arrow Operand :=
  ⟨Text.foldCase arrow.before, Text.foldCase arrow.after, foldOperand arrow.operand⟩

theorem render_foldCase {foldOperand : Operand → Operand}
    {renderOperand : Operand → List Char}
    (folds : ∀ operand, renderOperand (foldOperand operand) = Text.foldCase (renderOperand operand))
    (arrow : Arrow Operand) :
    (arrow.foldCase foldOperand).render renderOperand =
      Text.foldCase (arrow.render renderOperand) := by
  simp only [foldCase, render, folds, foldCase_append]
  rfl

end Arrow

namespace Item

/-- The item with small letters in place of ASCII capitals. -/
def foldCase : Item → Item
  | .newline => .newline
  | .comment body => .comment (Text.foldCase body)
  | .space body => .space (Text.foldCase body)
  | .label name => .label (Text.foldCase name)
  | .trace keyword => .trace (Text.foldCase keyword)
  | .init keyword beforeRegister register beforeValue digits =>
      .init (Text.foldCase keyword) (Text.foldCase beforeRegister) (Text.foldCase register)
        (Text.foldCase beforeValue) (Text.foldCase digits)
  | .inc register jump =>
      .inc (Text.foldCase register) (jump.map (Arrow.foldCase WrittenTarget.foldCase))
  | .dec register jump =>
      .dec (Text.foldCase register) (jump.map (Arrow.foldCase WrittenArms.foldCase))
  | .halt keyword reason =>
      .halt (Text.foldCase keyword) (reason.map (Prod.map Text.foldCase Text.foldCase))
  | .eval keyword beforeDescription description beforeRegister register beforeSign
      afterSign code =>
      .eval (Text.foldCase keyword) (Text.foldCase beforeDescription) (Text.foldCase description)
        (Text.foldCase beforeRegister) (Text.foldCase register) (Text.foldCase beforeSign)
        (Text.foldCase afterSign) (Text.foldCase code)

private theorem renderQuotation_foldCase (body : List Char) :
    renderQuotation (Text.foldCase body) = Text.foldCase (renderQuotation body) :=
  congrArg ('"' :: ·) (foldCase_append body ['"']).symm

theorem render_foldCase (item : Item) : item.foldCase.render = Text.foldCase item.render := by
  cases item with
  | newline => rfl
  | comment body => rfl
  | space body => rfl
  | label name => exact (foldCase_append name [':']).symm
  | trace keyword => rfl
  | init keyword beforeRegister register beforeValue digits =>
      simp only [foldCase, render, foldCase_append]
  | inc register jump =>
      cases jump with
      | none => exact (foldCase_append register ['+']).symm
      | some arrow =>
          simp only [foldCase, Option.map_some, render,
            arrow.render_foldCase WrittenTarget.render_foldCase, foldCase_append]
          rfl
  | dec register jump =>
      cases jump with
      | none => exact (foldCase_append register ['-']).symm
      | some arrow =>
          simp only [foldCase, Option.map_some, render,
            arrow.render_foldCase WrittenArms.render_foldCase, foldCase_append]
          rfl
  | halt keyword reason =>
      cases reason with
      | none => rfl
      | some parts =>
          simp only [foldCase, Option.map_some, Prod.map, render, renderQuotation_foldCase,
            foldCase_append]
  | eval keyword beforeDescription description beforeRegister register beforeSign afterSign code =>
      simp only [foldCase, render, renderQuotation_foldCase, foldCase_append]
      rfl

end Item

/-! ## Steps of a reader -/

/-- Of the text with small letters the reader reads what it reads of the text, with small
letters. -/
def Folds {Value : Type} (convert : Value → Value) (reader : Reader Value) : Prop :=
  ∀ text, reader (foldCase text) = (reader text).map (Prod.map convert foldCase)

section Steps

variable {Value Result : Type} {convert : Value → Value} {convertResult : Result → Result}

/-- The next step starts from what was read with small letters. -/
theorem bind_folds {found : Option (Value × List Char)}
    {next folded : Value × List Char → Option (Result × List Char)}
    (step : ∀ value text, folded (convert value, foldCase text) =
      (next (value, text)).map (Prod.map convertResult foldCase)) :
    ((found.map (Prod.map convert foldCase)).bind folded) =
      (found.bind next).map (Prod.map convertResult foldCase) := by
  cases found with
  | none => rfl
  | some read => exact step read.1 read.2

theorem after?_folds {expected : List Char} (plain : expected.any Char.isAlpha = false)
    (text : List Char) : after? expected (foldCase text) = (after? expected text).map foldCase := by
  induction expected generalizing text with
  | nil => rfl
  | cons mark others inductionHypothesis =>
      cases text with
      | nil => rfl
      | cons character behind =>
          rw [List.any_cons, Bool.or_eq_false_iff] at plain
          have same := @toLower_eq_iff character mark plain.1
          have rest := inductionHypothesis plain.2 behind
          simp only [foldCase, List.map_cons, after?, same] at rest ⊢
          by_cases expected : character = mark
          · rw [if_pos expected, if_pos expected, rest]
          · rw [if_neg expected, if_neg expected]
            rfl

/-- The next step starts behind the marks. -/
theorem after?_bind_folds {expected : List Char}
    (plain : expected.any Char.isAlpha = false) (text : List Char)
    {next folded : List Char → Option (Result × List Char)}
    (step : ∀ text, folded (foldCase text) =
      (next text).map (Prod.map convertResult foldCase)) :
    ((after? expected (foldCase text)).bind folded) =
      ((after? expected text).bind next).map (Prod.map convertResult foldCase) := by
  rw [after?_folds plain]
  cases after? expected text with
  | none => rfl
  | some behind => exact step behind

theorem optionally_folds {reader : Reader Value} (folds : Folds convert reader)
    (text : List Char) :
    optionally reader (foldCase text) =
      ((optionally reader text).1.map convert, foldCase (optionally reader text).2) := by
  unfold optionally
  rw [folds]
  cases reader text with
  | none => rfl
  | some read => rfl

end Steps

/-! ## Lexical parts -/

theorem caseBlind_isBlank : CaseBlind isBlank :=
  .of_capitals (by decide)

theorem caseBlind_isSpace : CaseBlind isSpace :=
  .of_capitals (by decide)

theorem caseBlind_keywordLetter : CaseBlind keywordLetter :=
  .of_capitals (by decide)

theorem run?_folds {belongs : Char → Bool} (blind : CaseBlind belongs) :
    Folds foldCase (run? belongs) := by
  intro text
  unfold run?
  rw [blind.takeWhile, blind.dropWhile]
  cases text.takeWhile belongs with
  | nil => rfl
  | cons first later => rfl

theorem word?_folds : Folds foldCase word? :=
  run?_folds caseBlind_isWord

theorem digits?_folds : Folds foldCase digits? :=
  run?_folds caseBlind_isDigit

theorem someBlanks?_folds : Folds foldCase someBlanks? :=
  run?_folds caseBlind_isBlank

theorem blanks_foldCase (text : List Char) :
    blanks (foldCase text) = (foldCase (blanks text).1, foldCase (blanks text).2) := by
  rw [blanks, caseBlind_isBlank.takeWhile, caseBlind_isBlank.dropWhile, blanks]

theorem keyword?_folds (keyword : List Char) : Folds foldCase (keyword? keyword) := by
  intro text
  unfold keyword?
  rw [word?_folds]
  refine bind_folds fun word text => ?_
  dsimp only
  rw [caseBlind_keywordLetter.map]
  split
  · rfl
  · rfl

theorem quotation?_folds : Folds foldCase quotation? := by
  intro text
  have notMark : CaseBlind (· != '"') := caseBlind_ne (by decide)
  refine after?_bind_folds (by decide) text fun text => ?_
  dsimp only
  rw [notMark.takeWhile, notMark.dropWhile]
  exact after?_bind_folds (by decide) _ fun text => rfl

/-! ## Jump operands -/

theorem offset?_folds : Folds WrittenTarget.foldCase offset? := by
  intro text
  cases text with
  | nil => rfl
  | cons character text =>
      by_cases plus : character = '+'
      · subst plus
        show ((digits? (foldCase text)).bind _) = _
        rw [digits?_folds]
        exact bind_folds fun digits text => rfl
      · by_cases minus : character = '-'
        · subst minus
          show ((digits? (foldCase text)).bind _) = _
          rw [digits?_folds]
          exact bind_folds fun digits text => rfl
        · have notPlus := (@toLower_eq_iff character '+' (by decide)).not.mpr plus
          have notMinus := (@toLower_eq_iff character '-' (by decide)).not.mpr minus
          rw [offset?_of_no_sign plus minus]
          exact offset?_of_no_sign notPlus notMinus (foldCase text)

theorem target?_folds : Folds WrittenTarget.foldCase target? := by
  intro text
  unfold target?
  rw [offset?_folds, word?_folds]
  cases offset? text with
  | some read => rfl
  | none =>
      cases word? text with
      | none => rfl
      | some read => rfl

theorem bothArms?_folds : Folds WrittenArms.foldCase bothArms? := by
  intro text
  unfold bothArms?
  rw [target?_folds]
  refine bind_folds fun onPositive text => ?_
  simp only [blanks_foldCase]
  refine after?_bind_folds (by decide) _ fun text => ?_
  simp only [blanks_foldCase]
  rw [target?_folds]
  exact bind_folds fun onZero text => rfl

theorem zeroArm?_folds : Folds WrittenArms.foldCase zeroArm? := by
  intro text
  refine after?_bind_folds (by decide) _ fun text => ?_
  simp only [blanks_foldCase]
  rw [target?_folds]
  exact bind_folds fun onZero text => rfl

theorem positiveArm?_folds : Folds WrittenArms.foldCase positiveArm? := by
  intro text
  unfold positiveArm?
  rw [target?_folds]
  refine bind_folds fun onPositive text => ?_
  simp only [blanks_foldCase]
  rw [after?_folds (by decide)]
  cases after? [','] (blanks text).2 with
  | none => rfl
  | some behind => rfl

theorem arms?_folds : Folds WrittenArms.foldCase arms? := by
  intro text
  unfold arms?
  rw [bothArms?_folds, zeroArm?_folds, positiveArm?_folds]
  cases bothArms? text with
  | some read => rfl
  | none =>
      cases zeroArm? text with
      | some read => rfl
      | none => rfl

theorem arrow?_folds {Operand : Type} {convert : Operand → Operand} {operand? : Reader Operand}
    (folds : Folds convert operand?) : Folds (Arrow.foldCase convert) (arrow? operand?) := by
  intro text
  unfold arrow?
  rw [blanks_foldCase]
  refine after?_bind_folds (by decide) _ fun text => ?_
  simp only [blanks_foldCase]
  rw [folds]
  exact bind_folds fun operand text => rfl

/-! ## Items -/

namespace Item

theorem newline?_folds : Folds foldCase newline? :=
  fun text => after?_bind_folds (by decide) text fun _ => rfl

theorem comment?_folds : Folds foldCase comment? := by
  intro text
  have notLineEnd : CaseBlind (· != '\n') := caseBlind_ne (by decide)
  refine after?_bind_folds (by decide) text fun text => ?_
  rw [notLineEnd.takeWhile, notLineEnd.dropWhile]
  rfl

theorem space?_folds : Folds foldCase space? := by
  intro text
  unfold space?
  rw [run?_folds caseBlind_isSpace]
  exact bind_folds fun body text => rfl

theorem label?_folds : Folds foldCase label? := by
  intro text
  unfold label?
  rw [word?_folds]
  refine bind_folds fun name text => ?_
  exact after?_bind_folds (by decide) text fun text => rfl

theorem trace?_folds : Folds foldCase trace? := by
  intro text
  unfold trace?
  rw [keyword?_folds]
  exact bind_folds fun keyword text => rfl

theorem init?_folds : Folds foldCase init? := by
  intro text
  unfold init?
  rw [keyword?_folds]
  refine bind_folds fun keyword text => ?_
  dsimp only
  rw [someBlanks?_folds]
  refine bind_folds fun beforeRegister text => ?_
  dsimp only
  rw [word?_folds]
  refine bind_folds fun register text => ?_
  dsimp only
  rw [someBlanks?_folds]
  refine bind_folds fun beforeValue text => ?_
  dsimp only
  rw [digits?_folds]
  exact bind_folds fun digits text => rfl

theorem inc?_folds : Folds foldCase inc? := by
  intro text
  unfold inc?
  rw [word?_folds]
  refine bind_folds fun register text => ?_
  refine after?_bind_folds (by decide) text fun text => ?_
  rw [optionally_folds (arrow?_folds target?_folds)]
  rfl

theorem dec?_folds : Folds foldCase dec? := by
  intro text
  unfold dec?
  rw [word?_folds]
  refine bind_folds fun register text => ?_
  refine after?_bind_folds (by decide) text fun text => ?_
  rw [optionally_folds (arrow?_folds arms?_folds)]
  rfl

theorem reason?_folds : Folds (Prod.map Text.foldCase Text.foldCase) reason? := by
  intro text
  unfold reason?
  rw [someBlanks?_folds]
  refine bind_folds fun gap text => ?_
  dsimp only
  rw [quotation?_folds]
  exact bind_folds fun body text => rfl

theorem halt?_folds : Folds foldCase halt? := by
  intro text
  unfold halt?
  rw [keyword?_folds]
  refine bind_folds fun keyword text => ?_
  dsimp only
  rw [optionally_folds reason?_folds]
  rfl

theorem eval?_folds : Folds foldCase eval? := by
  intro text
  have notEnd : CaseBlind (· != ';') := caseBlind_ne (by decide)
  unfold eval?
  rw [keyword?_folds]
  refine bind_folds fun keyword text => ?_
  simp only [blanks_foldCase]
  rw [quotation?_folds]
  refine bind_folds fun description text => ?_
  simp only [blanks_foldCase]
  rw [word?_folds]
  refine bind_folds fun register text => ?_
  simp only [blanks_foldCase]
  refine after?_bind_folds (by decide) _ fun text => ?_
  simp only [blanks_foldCase]
  rw [notEnd.takeWhile, notEnd.dropWhile]
  exact after?_bind_folds (by decide) _ fun text => rfl

/-- The first reader that matches is the same one. -/
theorem findSome?_folds {readers : List (Reader Item)}
    (folds : ∀ reader ∈ readers, Folds foldCase reader) :
    Folds foldCase fun text => readers.findSome? fun reader => reader text := by
  intro text
  induction readers with
  | nil => rfl
  | cons reader others inductionHypothesis =>
      rw [List.forall_mem_cons] at folds
      dsimp only
      rw [List.findSome?_cons, List.findSome?_cons, folds.1]
      cases reader text with
      | some read => rfl
      | none => exact inductionHypothesis folds.2

theorem read?_folds : Folds foldCase read? := by
  apply findSome?_folds
  simp only [readers, List.forall_mem_cons]
  exact ⟨newline?_folds, comment?_folds, space?_folds, label?_folds, trace?_folds, init?_folds,
    inc?_folds, dec?_folds, halt?_folds, eval?_folds, List.forall_mem_nil _⟩

end Item

/-! ## Scanning -/

private theorem scanWithin_foldCase (fuel : Nat) (text : List Char) :
    scanWithin fuel (foldCase text) =
      ((scanWithin fuel text).1.map Item.foldCase, foldCase (scanWithin fuel text).2) := by
  induction fuel generalizing text with
  | zero => rfl
  | succ fuel inductionHypothesis =>
      rw [scanWithin, scanWithin, Item.read?_folds]
      cases Item.read? text with
      | none => rfl
      | some read =>
          simp only [Option.map_some, Prod.map]
          rw [inductionHypothesis]
          rfl

/-- The same items are scanned, with small letters. -/
theorem scan_foldCase (text : List Char) :
    scan (foldCase text) = ((scan text).1.map Item.foldCase, foldCase (scan text).2) := by
  unfold scan
  rw [length_foldCase]
  exact scanWithin_foldCase text.length text

theorem newlines_foldCase (text : List Char) : newlines (foldCase text) = newlines text := by
  have lineEnd : CaseBlind (· == '\n') := caseBlind_eq (by decide)
  rw [newlines, List.count_eq_countP, foldCase, List.countP_map, newlines, List.count_eq_countP]
  exact congrArg (List.countP · text) (funext lineEnd)

theorem renderItems_foldCase (items : List Item) :
    renderItems (items.map Item.foldCase) = foldCase (renderItems items) := by
  induction items with
  | nil => rfl
  | cons item later inductionHypothesis =>
      rw [List.map_cons, renderItems, List.flatMap_cons, ← renderItems, inductionHypothesis,
        item.render_foldCase, ← foldCase_append, renderItems, renderItems, List.flatMap_cons]

end CounterMachine.Source
