import CounterMachine.Text.CodeRanges

/-!
Contract: the two classes of white space.

Owns: `isWhiteSpace`, the white space of the character standard, which may stand
between the lexemes of an expression, and `isSeparator`, which also holds the four
information separators and decides what is stripped from the ends of a text.
-/

set_option autoImplicit false

namespace CounterMachine.Text

def whiteSpaceRanges : CodeRanges :=
  [(0x9, 0xD), (0x20, 0x20), (0x85, 0x85), (0xA0, 0xA0), (0x1680, 0x1680), (0x2000, 0x200A),
   (0x2028, 0x2029), (0x202F, 0x202F), (0x205F, 0x205F), (0x3000, 0x3000)]

def isWhiteSpace (character : Char) : Bool :=
  whiteSpaceRanges.covers character.toNat

/-- White space, or one of the information separators U+001C to U+001F. -/
def isSeparator (character : Char) : Bool :=
  isWhiteSpace character || (0x1C ≤ character.toNat && character.toNat ≤ 0x1F)

/-- The text without the characters of a class at either end. -/
def stripOf (belongs : Char → Bool) (text : List Char) : List Char :=
  ((text.dropWhile belongs).reverse.dropWhile belongs).reverse

def strip (text : List Char) : List Char :=
  stripOf isSeparator text

end CounterMachine.Text
