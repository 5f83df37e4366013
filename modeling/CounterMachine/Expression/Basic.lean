import CounterMachine.Diagnostic

/-!
Contract: arithmetic expressions and the ways in which one is refused.

Owns: the five binary operators with their precedence, expression trees, and the
failures of reading and evaluating an expression.

Operands joined by operators of one precedence form one chain, which groups to the
left. Parentheses leave no trace in the tree.
-/

set_option autoImplicit false

namespace CounterMachine

open Text

inductive BinaryOperator where
  | plus
  | minus
  | times
  | over
  | modulo
deriving DecidableEq, Repr

namespace BinaryOperator

def additive? : Char → Option BinaryOperator
  | '+' => some .plus
  | '-' => some .minus
  | _ => none

def multiplicative? : Char → Option BinaryOperator
  | '*' => some .times
  | '/' => some .over
  | '%' => some .modulo
  | _ => none

end BinaryOperator

/-- Register and function names are in lower case. -/
inductive Expression where
  | literal (digits : List Char)
  | register (name : String)
  | negation (operand : Expression)
  | chain (first : Expression) (others : List (BinaryOperator × Expression))
  | call (function : String) (first : Expression) (others : List Expression)
deriving Repr

inductive ExpressionError where
  | unparsable (column : Nat)
  | tooDeep
  | literalTooLong (digits : Nat)
  | divisionByZero
  | unknownFunction (name : String)
  | negativeValue
deriving DecidableEq, Repr

/-- What is said about the text of a refused expression. -/
def ExpressionError.message (text : String) : ExpressionError → String
  | .unparsable column =>
      "cannot parse expression " ++ quoted text ++ " at column " ++ decimal column
  | .tooDeep =>
      "expression " ++ quoted (String.ofList (text.toList.take 40)) ++ " is nested too deeply"
  | .literalTooLong digits => "integer literal of " ++ decimal digits ++ " digits is too long"
  | .divisionByZero => "division by zero in " ++ quoted text
  | .unknownFunction name => "unknown function " ++ quoted name
  | .negativeValue => "expression " ++ quoted text ++ " produced a negative value"

def ExpressionError.report (text : String) (error : ExpressionError) : ExpressionReport :=
  ⟨error.message text, text⟩

end CounterMachine
