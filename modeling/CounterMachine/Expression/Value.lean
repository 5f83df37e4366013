import CounterMachine.Expression.Reader

/-!
Contract: the value of an expression.

Owns: the value of a tree in the integers, and `evaluate`, which also refuses a
negative result because it is to be stored in a register.

All operands of a chain are evaluated before its first operator is applied, and all
arguments before the function is looked up.
-/

set_option autoImplicit false

namespace CounterMachine

open Text

/-- Division rounds down, and a remainder has the sign of the divisor. -/
def BinaryOperator.apply (left right : Int) : BinaryOperator → Except ExpressionError Int
  | .plus => .ok (left + right)
  | .minus => .ok (left - right)
  | .times => .ok (left * right)
  | .over => if right = 0 then .error .divisionByZero else .ok (Int.fdiv left right)
  | .modulo => if right = 0 then .error .divisionByZero else .ok (Int.fmod left right)

/-- Applies the operators from left to right. -/
def BinaryOperator.applyAll (left : Int) :
    List (BinaryOperator × Int) → Except ExpressionError Int
  | [] => .ok left
  | (operator, right) :: later => do
      let value ← operator.apply left right
      applyAll value later

namespace Expression

/-- The known functions, each on a first argument and the others. -/
def function? : String → Option (Int → List Int → Int)
  | "min" => some fun first others => others.foldl min first
  | "max" => some fun first others => others.foldl max first
  | _ => none

mutual

def value (limit : DigitLimit) (registers : String → Int) :
    Expression → Except ExpressionError Int
  | .literal digits =>
      match readNumeral? limit digits with
      | some number => .ok number
      | none => .error (.literalTooLong digits.length)
  | .register name => .ok (registers name)
  | .negation operand => do
      let number ← value limit registers operand
      return -number
  | .chain first others => do
      let first ← value limit registers first
      let others ← operandValues limit registers others
      BinaryOperator.applyAll first others
  | .call function first others => do
      let first ← value limit registers first
      let others ← argumentValues limit registers others
      match function? function with
      | some apply => return apply first others
      | none => .error (.unknownFunction function)

def operandValues (limit : DigitLimit) (registers : String → Int) :
    List (BinaryOperator × Expression) → Except ExpressionError (List (BinaryOperator × Int))
  | [] => .ok []
  | (operator, operand) :: later => do
      let number ← value limit registers operand
      let numbers ← operandValues limit registers later
      return (operator, number) :: numbers

def argumentValues (limit : DigitLimit) (registers : String → Int) :
    List Expression → Except ExpressionError (List Int)
  | [] => .ok []
  | argument :: later => do
      let number ← value limit registers argument
      let numbers ← argumentValues limit registers later
      return number :: numbers

end

/-- Value of an expression text over the registers. -/
def evaluate (limit : DigitLimit) (registers : String → Int) (text : String) :
    Except ExpressionError Int := do
  let tree ← parse text
  let number ← tree.value limit registers
  if number < 0 then .error .negativeValue else return number

end Expression

end CounterMachine
