import CounterMachine.Text.DecimalDigit
import CounterMachine.Text.Digits

/-!
Contract: decimal numerals, with a bound on their length.

Owns: reading digits of any script, writing ASCII digits, and the bound that
reading and writing may impose. The sign is not counted, leading zeros are.
-/

set_option autoImplicit false

namespace CounterMachine.Text

/-- How many digits a decimal numeral may have to be read or written. -/
inductive DigitLimit where
  | atMost (bound : Nat)
  | unlimited
deriving DecidableEq, Repr

namespace DigitLimit

def standard : DigitLimit := .atMost 4300

def admits : DigitLimit → Nat → Bool
  | .atMost bound, digits => digits ≤ bound
  | .unlimited, _ => true

/-- Whether the decimal text of a value is short enough, which is seen without writing it. -/
def fits : DigitLimit → Int → Bool
  | .atMost bound, value => value.natAbs < Nat.pow 10 bound
  | .unlimited, _ => true

theorem fits_atMost {bound : Nat} {value : Int} (positive : 0 < bound) :
    (atMost bound).fits value = true ↔ (decimalDigits value.natAbs).length ≤ bound := by
  rw [decimalDigits_eq]
  exact decide_eq_true_iff.trans (Nat.length_toDigits_le_iff (by decide) positive).symm

end DigitLimit

def isNumeral (text : List Char) : Bool :=
  !text.isEmpty && text.all isDecimalDigit

/-- Value of a run of digits; a character that is no digit counts as zero. -/
def numeralValue (digits : List Char) : Nat :=
  digits.foldl (fun value digit => 10 * value + (digitValue? digit).getD 0) 0

/-- Value of a run of digits, unless it is longer than the limit. -/
def readNumeral? (limit : DigitLimit) (digits : List Char) : Option Nat :=
  if limit.admits digits.length then some (numeralValue digits) else none

def decimal : Int → String
  | .ofNat value => String.ofList (decimalDigits value)
  | .negSucc value => String.ofList ('-' :: decimalDigits (value + 1))

/-- Binary text, whose length is never bounded. -/
def binary (value : Nat) : String :=
  String.ofList (binaryDigits value)

/-- Decimal text, filled up to the width with zeros between sign and digits. -/
def paddedDecimal (width : Nat) (value : Int) : String :=
  let sign := if value < 0 then ['-'] else []
  let digits := decimalDigits value.natAbs
  String.ofList
    (sign ++ List.replicate (width - (sign ++ digits).length) '0' ++ digits)

end CounterMachine.Text
