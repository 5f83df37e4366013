import CounterMachine.Expression.Basic
import CounterMachine.Text.LetterCase
import CounterMachine.Text.WhiteSpace
import CounterMachine.Text.Word

/-!
Contract: reading an expression.

Owns: the grammar of expressions, the column at which reading fails, and the bound on
nesting.

An operand is a negated operand, a numeral, a call, a register or a parenthesised sum.
A product joins operands by `*`, `/` and `%`, a sum joins products by `+` and `-`.
White space may stand between any two lexemes. A name is first tried as a call, and
is a register where no complete call follows.

A failure is reported at the furthest place where an operand or an operator was looked
for and not found; text behind a complete expression is reported where it starts.
-/

set_option autoImplicit false

namespace CounterMachine.Expression

open Text

/-- A place in a text: how many characters lie before it, and the text behind it. -/
structure Cursor where
  position : Nat
  text : List Char
deriving DecidableEq, Repr

namespace Cursor

/-- The place behind the longest run of characters of a class. -/
def pass (belongs : Char → Bool) (cursor : Cursor) : Cursor :=
  ⟨cursor.position + (cursor.text.takeWhile belongs).length, cursor.text.dropWhile belongs⟩

def skip (cursor : Cursor) : Cursor :=
  cursor.pass isWhiteSpace

end Cursor

/-- Result of trying to read something. `reach` is the furthest position at which an operand
or an operator was looked for in vain. -/
inductive Attempt (Value : Type) where
  | read (value : Value) (rest : Cursor) (reach : Nat)
  | stuck (reach : Nat)
  | tooDeep
deriving Repr

def Attempt.map {Value Result : Type} (convert : Value → Result) :
    Attempt Value → Attempt Result
  | .read value rest reach => .read (convert value) rest reach
  | .stuck reach => .stuck reach
  | .tooDeep => .tooDeep

def startsName (character : Char) : Bool :=
  character.isAlpha || character == '_'

/-! ## Nesting -/

/-- Rules of the grammar that may be entered within one another. -/
def nestingLimit : Nat := 490

/-- Enters rules that are nested `cost` deep. -/
def enter {Value : Type} (cost room : Nat) (attempt : Nat → Attempt Value) : Attempt Value :=
  if room < cost then .tooDeep else attempt (room - cost)

/-! ## Chains -/

/-- Further operands, each behind an operator. Nothing is looked for at the end of the
text, and an operator without an operand is not read. -/
def laterOperands {Operator : Type} (operator? : Char → Option Operator)
    (operand : Cursor → Attempt Expression) :
    Nat → Cursor → Nat → Attempt (List (Operator × Expression))
  | 0, cursor, reach => .read [] cursor reach
  | fuel + 1, cursor, reach =>
      if cursor.text.isEmpty then .read [] cursor reach
      else
        let found := cursor.skip
        match found.text with
        | [] => .read [] cursor found.position
        | character :: behind =>
            match operator? character with
            | none => .read [] cursor (max reach found.position)
            | some operator =>
                match operand (Cursor.skip ⟨found.position + 1, behind⟩) with
                | .tooDeep => .tooDeep
                | .stuck deeper => .read [] cursor (max reach deeper)
                | .read value rest deeper =>
                    match laterOperands operator? operand fuel rest (max reach deeper) with
                    | .tooDeep => .tooDeep
                    | .stuck furthest => .stuck furthest
                    | .read values final furthest =>
                        .read ((operator, value) :: values) final furthest

/-- An operand and the operands behind it, of which there are at most `size`. -/
def chainOf {Operator : Type} (operator? : Char → Option Operator)
    (operand : Nat → Cursor → Attempt Expression) (size room : Nat) (cursor : Cursor) :
    Attempt (Expression × List (Operator × Expression)) :=
  match operand room cursor with
  | .tooDeep => .tooDeep
  | .stuck reach => .stuck reach
  | .read first rest reach =>
      let later := fun following => enter 2 room fun room => operand room following
      match laterOperands operator? later size rest reach with
      | .tooDeep => .tooDeep
      | .stuck furthest => .stuck furthest
      | .read values final furthest => .read (first, values) final furthest

/-- A chain of one operand is that operand. -/
def chained : Expression × List (BinaryOperator × Expression) → Expression
  | (first, []) => first
  | (first, others) => .chain first others

def product (operand : Nat → Cursor → Attempt Expression) (size room : Nat)
    (cursor : Cursor) : Attempt Expression :=
  (chainOf BinaryOperator.multiplicative? operand size room cursor).map chained

def sum (operand : Nat → Cursor → Attempt Expression) (size room : Nat)
    (cursor : Cursor) : Attempt Expression :=
  (chainOf BinaryOperator.additive? (product operand size) size room cursor).map chained

def separator? : Char → Option Unit
  | ',' => some ()
  | _ => none

/-- Sums between commas. -/
def arguments (operand : Nat → Cursor → Attempt Expression) (size room : Nat)
    (cursor : Cursor) : Attempt (Expression × List Expression) :=
  (chainOf separator? (sum operand size) size room cursor).map fun (first, others) =>
    (first, others.map Prod.snd)

/-! ## Operands -/

/-- Requires a closing parenthesis behind what was read. -/
def closed {Value : Type} : Attempt Value → Attempt Value
  | .read value rest reach =>
      match rest.skip with
      | ⟨position, ')' :: behind⟩ => .read value ⟨position + 1, behind⟩ reach
      | _ => .stuck reach
  | attempt => attempt

/-- An operand within `levels` operands, in a text of `size` characters; `room` is what the
nesting limit leaves. -/
def operand (size : Nat) : (levels room : Nat) → Cursor → Attempt Expression
  | 0, _, _ => .tooDeep
  | _ + 1, _, ⟨position, []⟩ => .stuck position
  | levels + 1, room, ⟨position, character :: following⟩ =>
      let here : Cursor := ⟨position, character :: following⟩
      let inside : Cursor := Cursor.skip ⟨position + 1, following⟩
      if character = '-' then
        (enter 2 room fun room => operand size levels room inside).map .negation
      else if character = '(' then
        closed (enter 5 room fun room => sum (operand size levels) size room inside)
      else if character.isDigit then
        .read (.literal (here.text.takeWhile Char.isDigit)) (here.pass Char.isDigit) position
      else if startsName character then
        let name := String.ofList (lower (here.text.takeWhile isWord))
        let behind := here.pass isWord
        match behind.skip with
        | ⟨opening, '(' :: following⟩ =>
            match closed (enter 6 room fun room =>
                arguments (operand size levels) size room
                  (Cursor.skip ⟨opening + 1, following⟩)) with
            | .tooDeep => .tooDeep
            | .stuck reach => .read (.register name) behind reach
            | .read (first, others) rest reach => .read (.call name first others) rest reach
        | _ => .read (.register name) behind position
      else .stuck position

/-- The tree of an expression that is the whole text. -/
def parse (text : String) : Except ExpressionError Expression :=
  let characters := text.toList
  let size := characters.length
  match sum (operand size nestingLimit) size nestingLimit (Cursor.skip ⟨0, characters⟩) with
  | .tooDeep => .error .tooDeep
  | .stuck reach => .error (.unparsable (reach + 1))
  | .read tree rest _ =>
      let final := rest.skip
      if final.text.isEmpty then .ok tree else .error (.unparsable (final.position + 1))

end CounterMachine.Expression
