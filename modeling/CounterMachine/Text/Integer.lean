import CounterMachine.Text.Numeral
import CounterMachine.Text.WhiteSpace

/-!
Contract: integers as a user types them.

Owns: the accepted spellings: white space around, one sign, digits of any script, and
single underscores between digits. There is no bound on the length.
-/

set_option autoImplicit false

namespace CounterMachine.Text

/-- Digits behind a first digit, without the single underscores between them. -/
def laterDigits? : List Char → Option (List Char)
  | [] => some []
  | '_' :: digit :: rest =>
      if isDecimalDigit digit then (laterDigits? rest).map (digit :: ·) else none
  | digit :: rest =>
      if isDecimalDigit digit then (laterDigits? rest).map (digit :: ·) else none

def groupedDigits? : List Char → Option (List Char)
  | digit :: rest =>
      if isDecimalDigit digit then (laterDigits? rest).map (digit :: ·) else none
  | [] => none

def readInteger? (text : String) : Option Int :=
  match stripOf isWhiteSpace text.toList with
  | '-' :: digits => (groupedDigits? digits).map fun digits => -(numeralValue digits : Int)
  | '+' :: digits => (groupedDigits? digits).map fun digits => (numeralValue digits : Int)
  | digits => (groupedDigits? digits).map fun digits => (numeralValue digits : Int)

end CounterMachine.Text
