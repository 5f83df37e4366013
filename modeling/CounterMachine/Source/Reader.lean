import CounterMachine.Source.Item
import CounterMachine.Text.Word

/-!
Contract: reading items from the front of a text.

Owns: one reader per kind of item, their order, and `scan`, which reads items until
none matches. A reader takes the longest run of each class of characters and never
gives a character back; the first reader that matches decides.
-/

set_option autoImplicit false

namespace CounterMachine.Source

open Text

/-- What a reader has read, and the text behind it. -/
abbrev Reader (Value : Type) := List Char → Option (Value × List Char)

/-! ## Lexical parts -/

def isBlank (character : Char) : Bool :=
  character == ' ' || character == '\t'

def isSpace (character : Char) : Bool :=
  isBlank character || character == '\r' || character == '\x0c' || character == '\x0b'

/-- The text behind the expected characters. -/
def after? : List Char → List Char → Option (List Char)
  | [], text => some text
  | _ :: _, [] => none
  | expected :: others, character :: text =>
      if character = expected then after? others text else none

/-- The longest run of characters of a class, which must not be empty. -/
def run? (belongs : Char → Bool) : Reader (List Char) := fun text =>
  match text.takeWhile belongs with
  | [] => none
  | run => some (run, text.dropWhile belongs)

def word? : Reader (List Char) := run? isWord

def digits? : Reader (List Char) := run? Char.isDigit

/-- Spaces and tabs, of which there may be none. -/
def blanks (text : List Char) : List Char × List Char :=
  (text.takeWhile isBlank, text.dropWhile isBlank)

def someBlanks? : Reader (List Char) := run? isBlank

/-- Keywords are written in any letter case, and capital dotted I stands for `i`. -/
def keywordLetter (character : Char) : Char :=
  if character = '\u0130' then 'i' else character.toLower

/-- A whole word that spells the keyword. -/
def keyword? (keyword : List Char) : Reader (List Char) := fun text => do
  let (word, text) ← word? text
  if word.map keywordLetter = keyword then return (word, text) else none

def quotation? : Reader (List Char) := fun text => do
  let text ← after? ['"'] text
  let body := text.takeWhile (· != '"')
  let text ← after? ['"'] (text.dropWhile (· != '"'))
  return (body, text)

/-! ## Jump operands -/

def offset? : Reader WrittenTarget
  | '+' :: text => do
      let (digits, text) ← digits? text
      return (.offset false digits, text)
  | '-' :: text => do
      let (digits, text) ← digits? text
      return (.offset true digits, text)
  | _ => none

def target? : Reader WrittenTarget := fun text =>
  offset? text <|> (word? text).map fun (letters, text) => (.word letters, text)

def bothArms? : Reader WrittenArms := fun text => do
  let (onPositive, text) ← target? text
  let (beforeComma, text) := blanks text
  let text ← after? [','] text
  let (afterComma, text) := blanks text
  let (onZero, text) ← target? text
  return (.both onPositive beforeComma afterComma onZero, text)

def zeroArm? : Reader WrittenArms := fun text => do
  let text ← after? [','] text
  let (afterComma, text) := blanks text
  let (onZero, text) ← target? text
  return (.zeroOnly afterComma onZero, text)

def positiveArm? : Reader WrittenArms := fun text => do
  let (onPositive, text) ← target? text
  let (beforeComma, behind) := blanks text
  match after? [','] behind with
  | some text => return (.positiveOnly onPositive (some beforeComma), text)
  | none => return (.positiveOnly onPositive none, text)

def arms? : Reader WrittenArms := fun text =>
  bothArms? text <|> zeroArm? text <|> positiveArm? text

def arrow? {Operand : Type} (operand? : Reader Operand) : Reader (Arrow Operand) :=
  fun text => do
    let (before, text) := blanks text
    let text ← after? ['-', '>'] text
    let (after, text) := blanks text
    let (operand, text) ← operand? text
    return (⟨before, after, operand⟩, text)

/-- What the reader reads, or nothing where it does not match. -/
def optionally {Value : Type} (reader : Reader Value) (text : List Char) :
    Option Value × List Char :=
  match reader text with
  | some (value, text) => (some value, text)
  | none => (none, text)

/-! ## Items -/

namespace Item

def newline? : Reader Item := fun text => do
  let text ← after? ['\n'] text
  return (.newline, text)

def comment? : Reader Item := fun text => do
  let text ← after? ['/', '/'] text
  return (.comment (text.takeWhile (· != '\n')), text.dropWhile (· != '\n'))

def space? : Reader Item := fun text => do
  let (body, text) ← run? isSpace text
  return (.space body, text)

def label? : Reader Item := fun text => do
  let (name, text) ← word? text
  let text ← after? [':'] text
  return (.label name, text)

def trace? : Reader Item := fun text => do
  let (keyword, text) ← keyword? ['t', 'r', 'a', 'c', 'e'] text
  return (.trace keyword, text)

def init? : Reader Item := fun text => do
  let (keyword, text) ← keyword? ['i', 'n', 'i', 't'] text
  let (beforeRegister, text) ← someBlanks? text
  let (register, text) ← word? text
  let (beforeValue, text) ← someBlanks? text
  let (digits, text) ← digits? text
  return (.init keyword beforeRegister register beforeValue digits, text)

def inc? : Reader Item := fun text => do
  let (register, text) ← word? text
  let text ← after? ['+'] text
  let (jump, text) := optionally (arrow? target?) text
  return (.inc register jump, text)

def dec? : Reader Item := fun text => do
  let (register, text) ← word? text
  let text ← after? ['-'] text
  let (jump, text) := optionally (arrow? arms?) text
  return (.dec register jump, text)

def reason? : Reader (List Char × List Char) := fun text => do
  let (gap, text) ← someBlanks? text
  let (body, text) ← quotation? text
  return ((gap, body), text)

def halt? : Reader Item := fun text => do
  let (keyword, text) ← keyword? ['h', 'a', 'l', 't'] text
  let (reason, text) := optionally reason? text
  return (.halt keyword reason, text)

def eval? : Reader Item := fun text => do
  let (keyword, text) ← keyword? ['e', 'v', 'a', 'l'] text
  let (beforeDescription, text) := blanks text
  let (description, text) ← quotation? text
  let (beforeRegister, text) := blanks text
  let (register, text) ← word? text
  let (beforeSign, text) := blanks text
  let text ← after? [':', ':', '='] text
  let (afterSign, text) := blanks text
  let code := text.takeWhile (· != ';')
  let text ← after? [';'] (text.dropWhile (· != ';'))
  return (.eval keyword beforeDescription description beforeRegister register beforeSign
    afterSign code, text)

/-- The readers in the order in which they are tried: a word before a colon is a label
even if it spells a keyword, and a trace marker goes before every instruction. -/
def readers : List (Reader Item) :=
  [newline?, comment?, space?, label?, trace?, init?, inc?, dec?, halt?, eval?]

def read? : Reader Item := fun text =>
  readers.findSome? fun reader => reader text

end Item

/-- Reads items while one matches, at most `fuel` of them. -/
def scanWithin : Nat → List Char → List Item × List Char
  | 0, text => ([], text)
  | fuel + 1, text =>
      match Item.read? text with
      | none => ([], text)
      | some (item, behind) =>
          let (items, remainder) := scanWithin fuel behind
          (item :: items, remainder)

/-- The items at the front of a text, and the text behind them. An item has at least one
character, so there are no more items than characters. -/
def scan (text : List Char) : List Item × List Char :=
  scanWithin text.length text

end CounterMachine.Source
