import CounterMachine.Instruction
import CounterMachine.Text.LetterCase
import CounterMachine.Text.WhiteSpace

/-!
Contract: the items of a program text, with every character they consist of.

Owns: the written forms of jump operands, of the arms of a decrement and of items;
their text, which is exactly what was read; the integer literals of an item; and the
token an item stands for.

Does not own: which texts are items. An item may hold any characters; the reader
decides which of them it produces.
-/

set_option autoImplicit false

namespace CounterMachine.Source

open Text

inductive WrittenTarget where
  | offset (negative : Bool) (digits : List Char)
  | word (letters : List Char)
deriving DecidableEq, Repr

/-- The arms of a decrement. A missing arm falls through to the next instruction. -/
inductive WrittenArms where
  | both (onPositive : WrittenTarget) (beforeComma afterComma : List Char) (onZero : WrittenTarget)
  | zeroOnly (afterComma : List Char) (onZero : WrittenTarget)
  | positiveOnly (onPositive : WrittenTarget) (beforeComma : Option (List Char))
deriving DecidableEq, Repr

/-- An arrow between blanks, and what it points to. -/
structure Arrow (Operand : Type) where
  before : List Char
  after : List Char
  operand : Operand
deriving DecidableEq, Repr

inductive Item where
  | newline
  | comment (body : List Char)
  | space (body : List Char)
  | label (name : List Char)
  | trace (keyword : List Char)
  | init (keyword beforeRegister register beforeValue digits : List Char)
  | inc (register : List Char) (jump : Option (Arrow WrittenTarget))
  | dec (register : List Char) (jump : Option (Arrow WrittenArms))
  | halt (keyword : List Char) (reason : Option (List Char × List Char))
  | eval (keyword beforeDescription description beforeRegister register beforeSign
      afterSign code : List Char)
deriving DecidableEq, Repr

/-! ## Text -/

def WrittenTarget.render : WrittenTarget → List Char
  | .offset negative digits => (if negative then '-' else '+') :: digits
  | .word letters => letters

def WrittenArms.render : WrittenArms → List Char
  | .both onPositive beforeComma afterComma onZero =>
      onPositive.render ++ beforeComma ++ ',' :: afterComma ++ onZero.render
  | .zeroOnly afterComma onZero => ',' :: afterComma ++ onZero.render
  | .positiveOnly onPositive none => onPositive.render
  | .positiveOnly onPositive (some beforeComma) => onPositive.render ++ beforeComma ++ [',']

def Arrow.render {Operand : Type} (renderOperand : Operand → List Char)
    (arrow : Arrow Operand) : List Char :=
  arrow.before ++ '-' :: '>' :: arrow.after ++ renderOperand arrow.operand

def renderQuotation (body : List Char) : List Char :=
  '"' :: body ++ ['"']

def Item.render : Item → List Char
  | .newline => ['\n']
  | .comment body => '/' :: '/' :: body
  | .space body => body
  | .label name => name ++ [':']
  | .trace keyword => keyword
  | .init keyword beforeRegister register beforeValue digits =>
      keyword ++ beforeRegister ++ register ++ beforeValue ++ digits
  | .inc register none => register ++ ['+']
  | .inc register (some jump) => register ++ '+' :: jump.render WrittenTarget.render
  | .dec register none => register ++ ['-']
  | .dec register (some jump) => register ++ '-' :: jump.render WrittenArms.render
  | .halt keyword none => keyword
  | .halt keyword (some (gap, body)) => keyword ++ gap ++ renderQuotation body
  | .eval keyword beforeDescription description beforeRegister register beforeSign
      afterSign code =>
      keyword ++ beforeDescription ++ renderQuotation description ++ beforeRegister ++
        register ++ beforeSign ++ ':' :: ':' :: '=' :: afterSign ++ code ++ [';']

/-! ## Integer literals -/

/-- An integer literal inside an item, with the text of the item behind it. -/
structure IntegerLiteral where
  sign : List Char
  digits : List Char
  after : List Char
deriving DecidableEq, Repr

def IntegerLiteral.text (literal : IntegerLiteral) : List Char :=
  literal.sign ++ literal.digits

def WrittenTarget.literals (after : List Char) : WrittenTarget → List IntegerLiteral
  | .offset negative digits => [⟨[if negative then '-' else '+'], digits, after⟩]
  | .word _ => []

def WrittenArms.literals : WrittenArms → List IntegerLiteral
  | .both onPositive beforeComma afterComma onZero =>
      onPositive.literals (beforeComma ++ ',' :: afterComma ++ onZero.render) ++ onZero.literals []
  | .zeroOnly _ onZero => onZero.literals []
  | .positiveOnly onPositive none => onPositive.literals []
  | .positiveOnly onPositive (some beforeComma) => onPositive.literals (beforeComma ++ [','])

/-- In the order in which they are written. -/
def Item.literals : Item → List IntegerLiteral
  | .init _ _ _ _ digits => [⟨[], digits, []⟩]
  | .inc _ (some jump) => jump.operand.literals []
  | .dec _ (some jump) => jump.operand.literals
  | _ => []

/-! ## Tokens -/

/-- Names are read without regard to letter case. -/
def lowered (name : List Char) : String :=
  String.ofList (lower name)

/-- The operand of a jump to the next instruction. -/
def nextTarget : Target := .number 1

def WrittenTarget.target : WrittenTarget → Target
  | .offset true digits => .number (-(numeralValue digits : Int))
  | .offset false digits => .number (numeralValue digits)
  | .word letters => .name (lowered letters)

/-- Operands for a positive register and for a register at zero. -/
def WrittenArms.targets : WrittenArms → Target × Target
  | .both onPositive _ _ onZero => (onPositive.target, onZero.target)
  | .zeroOnly _ onZero => (nextTarget, onZero.target)
  | .positiveOnly onPositive _ => (onPositive.target, nextTarget)

def Item.operation? : Item → Option (Operation Target)
  | .init _ _ register _ digits => some (.init (lowered register) (numeralValue digits))
  | .inc register none => some (.inc (lowered register) nextTarget)
  | .inc register (some jump) => some (.inc (lowered register) jump.operand.target)
  | .dec register none => some (.dec (lowered register) nextTarget nextTarget)
  | .dec register (some jump) =>
      some (.dec (lowered register) jump.operand.targets.1 jump.operand.targets.2)
  | .halt _ none => some (.halt "Halt")
  | .halt _ (some (_, body)) => some (.halt (String.ofList body))
  | .eval _ _ description _ register _ _ code =>
      some (.eval (String.ofList description) (lowered register) (String.ofList (strip code)))
  | .newline | .comment _ | .space _ | .label _ | .trace _ => none

/-- Line ends, comments and white space stand for nothing. -/
def Item.token? (line : Int) (item : Item) : Option (Token Target) :=
  let text := String.ofList item.render
  match item with
  | .label name => some (.label (lowered name) text line)
  | .trace _ => some (.trace text line)
  | _ => item.operation?.map fun operation =>
      .instruction ⟨operation, text, line, false, none⟩

end CounterMachine.Source
