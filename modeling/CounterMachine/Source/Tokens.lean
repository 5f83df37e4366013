import CounterMachine.Diagnostic
import CounterMachine.Source.Reader

/-!
Contract: the tokens of a program text.

Owns: `parse`, the lines that tokens and errors carry, and the two ways in which a
text is refused: somewhere no item matches, or an integer literal is longer than the
limit. The first kind is looked for first, in the whole text.
-/

set_option autoImplicit false

namespace CounterMachine

open Text Source

/-- Where reading stopped. `overlong` is the length of a literal that is too long. -/
structure ParseError where
  line : Nat
  remainder : String
  file : String := ""
  overlong : Option Nat := none
deriving DecidableEq, Repr

def ParseError.diagnostic (error : ParseError) : Diagnostic :=
  .unparsed error.line error.remainder error.file <|
    match error.overlong with
    | none => ""
    | some digits => "integer literal of " ++ decimal digits ++ " digits is too long"

def newlines (text : List Char) : Nat :=
  text.count '\n'

/-- Text of the items, in order. -/
def renderItems (items : List Item) : List Char :=
  items.flatMap Item.render

/-- Tokens of items that start on the given line. -/
def tokensFrom (limit : DigitLimit) (file : String) :
    Nat → List Item → Except ParseError (List (Token Target))
  | _, [] => .ok []
  | line, item :: later =>
      match item.literals.find? fun literal => !limit.admits literal.digits.length with
      | some literal =>
          .error {
            line
            remainder := String.ofList (literal.text ++ literal.after ++ renderItems later)
            file
            overlong := some literal.text.length }
      | none => do
          let tokens ← tokensFrom limit file (line + newlines item.render) later
          return (item.token? line).toList ++ tokens

/-- Tokens of a program text; an error names the file. -/
def parse (limit : DigitLimit) (source : String) (file : String := "") :
    Except ParseError (List (Token Target)) :=
  let (items, remainder) := scan source.toList
  match remainder with
  | [] => tokensFrom limit file 1 items
  | _ :: _ =>
      .error {
        line := 1 + newlines (renderItems items)
        remainder := String.ofList remainder
        file }

end CounterMachine
