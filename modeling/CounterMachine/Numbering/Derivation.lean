import CounterMachine.Text.Numeral
import CounterMachine.Violation

/-!
Contract: derivations, which lead to a value by lines of text.

Owns: what a line can state, and the sequence of derivations. A derivation breaks off at
the first line with a number that is too long to be written, and what follows a failure
is not looked at.

Does not own: which lines derive a number or a program.
-/

set_option autoImplicit false

namespace CounterMachine

open Text

inductive DerivationLine where
  | bigPair (x y : Nat)
  | smallPair (x y : Nat)
  /-- The code of one instruction. -/
  | instruction (code : Nat)
  /-- The number of a program. -/
  | program (number : Nat)
  | bits (number : Nat)
  /-- The list that a number times a power of two stands for. -/
  | list (exponent number : Nat) (codes : List Nat)
  | bigSplit (number x y : Nat)
  | evenTag
  | oddTag
  | smallSplit (number x y : Nat)
deriving DecidableEq, Repr

namespace DerivationLine

def text : DerivationLine → String
  | .bigPair x y =>
      "<< " ++ decimal x ++ " , " ++ decimal y ++ " >> = 2^" ++ decimal x ++ "*(2*" ++
        decimal y ++ " + 1)"
  | .smallPair x y =>
      "< " ++ decimal x ++ " , " ++ decimal y ++ " > = 2^" ++ decimal x ++ "*(2*" ++
        decimal y ++ " + 1) - 1"
  | .instruction code => "=" ++ decimal code
  | .program number => "Encoded program: " ++ decimal number
  | .bits number => decimal number ++ " = " ++ binary number
  | .list exponent number codes =>
      "2^" ++ decimal exponent ++ " * " ++ decimal number ++ " = [" ++
        ",".intercalate (codes.map fun (code : Nat) => decimal code) ++ "]"
  | .bigSplit number x y =>
      decimal number ++ " = 2^" ++ decimal x ++ "*" ++ decimal (2 * y + 1 : Nat) ++
        " = << " ++ decimal x ++ " , " ++ decimal y ++ " >>"
  | .evenTag => "first element is even therefore plus instruction"
  | .oddTag => "first element is odd therefore minus instruction"
  | .smallSplit number x y =>
      decimal number ++ " = < " ++ decimal x ++ " , " ++ decimal y ++ " >"

/-- The decimal numbers in the text. -/
def numbers : DerivationLine → List Int
  | .bigPair x y | .smallPair x y => [x, y]
  | .instruction code => [code]
  | .program number | .bits number => [number]
  | .list exponent number codes => exponent :: number :: codes.map Int.ofNat
  | .bigSplit number x y => [number, x, (2 * y + 1 : Nat), y]
  | .evenTag | .oddTag => []
  | .smallSplit number x y => [number, x, y]

def write (limit : DigitLimit) (line : DerivationLine) : Except Violation String := do
  checkNumerals limit line.numbers
  return line.text

end DerivationLine

/-- The lines that lead to a value, or up to a failure. -/
structure Derivation (Failure Value : Type) where
  lines : List String
  result : Except Failure Value

namespace Derivation

variable {Failure : Type}

/-- The first derivation, and the one that follows from its value. -/
protected def bind {First Second : Type} (first : Derivation Failure First)
    (next : First → Derivation Failure Second) : Derivation Failure Second :=
  match first.result with
  | .error failure => ⟨first.lines, .error failure⟩
  | .ok value =>
      let second := next value
      ⟨first.lines ++ second.lines, second.result⟩

instance : Monad (Derivation Failure) where
  pure value := ⟨[], .ok value⟩
  bind := Derivation.bind

/-- A result that takes no line. -/
def silent {Value : Type} (result : Except Failure Value) : Derivation Failure Value :=
  ⟨[], result⟩

/-- One line of known text. -/
def line (text : String) : Derivation Failure Unit :=
  ⟨[text], .ok ()⟩

/-- One line, or the failure to write it. -/
def state (refuse : Violation → Failure) (limit : DigitLimit) (stated : DerivationLine) :
    Derivation Failure Unit := do
  let text ← silent ((stated.write limit).mapError refuse)
  line text

def stateAll (refuse : Violation → Failure) (limit : DigitLimit) :
    List DerivationLine → Derivation Failure Unit
  | [] => pure ()
  | stated :: later => do
      state refuse limit stated
      stateAll refuse limit later

end Derivation

end CounterMachine
