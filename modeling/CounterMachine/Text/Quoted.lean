import CounterMachine.Text.Printable

/-!
Contract: a text between quotation marks, as messages show it.

Owns: the choice of the mark and the escapes. Every character of a quoted text is
printable, and the mark never stands unescaped inside it.
-/

set_option autoImplicit false

namespace CounterMachine.Text

/-- Lower-case hexadecimal, filled up with zeros to the width. -/
def hexadecimal (width code : Nat) : List Char :=
  let digits := Nat.toDigits 16 code
  List.replicate (width - digits.length) '0' ++ digits

def escape (mark character : Char) : List Char :=
  if character = mark || character = '\\' then ['\\', character]
  else if character = '\n' then ['\\', 'n']
  else if character = '\r' then ['\\', 'r']
  else if character = '\t' then ['\\', 't']
  else if isPrintable character then [character]
  else if character.toNat ≤ 0xFF then '\\' :: 'x' :: hexadecimal 2 character.toNat
  else if character.toNat ≤ 0xFFFF then '\\' :: 'u' :: hexadecimal 4 character.toNat
  else '\\' :: 'U' :: hexadecimal 8 character.toNat

/-- The single mark, unless the text holds single marks and no double ones. -/
def quotationMark (text : List Char) : Char :=
  if text.contains '\x27' && !text.contains '"' then '"' else '\x27'

def quoted (text : String) : String :=
  let characters := text.toList
  let mark := quotationMark characters
  String.ofList (mark :: characters.flatMap (escape mark) ++ [mark])

end CounterMachine.Text
