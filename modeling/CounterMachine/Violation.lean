import CounterMachine.Text.Numeral

/-!
Contract: conditions on arguments that a call broke.

Owns: the causes that lie with the caller and not with a program: they carry
neither a code nor a place in a source text. Writing a number fails in this way
when its numeral is longer than the limit.

Does not own: the failures of programs, numbers and texts, which are diagnostics.
-/

set_option autoImplicit false

namespace CounterMachine

open Text

inductive Violation where
  /-- A number whose decimal text has more digits than may be written. -/
  | numeralTooLong (bound : Nat)
  | negativeArgument (index : Nat) (value : Int)
  | negativePair (left right : Int)
  | budgetNotPositive
  /-- A label or a trace marker where only an instruction has a meaning. -/
  | notAnInstruction (shown : String)
deriving DecidableEq, Repr

def Violation.message : Violation → String
  | .numeralTooLong bound =>
      "Exceeds the limit (" ++ decimal bound ++ " digits) for integer string conversion; " ++
        "use sys.set_int_max_str_digits() to increase the limit"
  | .negativeArgument index value =>
      "register arguments must be non-negative, got r" ++ decimal index ++ " = " ++
        decimal value
  | .negativePair left right =>
      "pairing is defined on naturals, got (" ++ decimal left ++ ", " ++ decimal right ++ ")"
  | .budgetNotPositive => "max_steps must be positive"
  | .notAnInstruction shown => "not an instruction: " ++ shown

/-- Refuses numbers of which one is too long to be written. -/
def checkNumerals (limit : DigitLimit) (numbers : List Int) : Except Violation Unit :=
  match limit with
  | .unlimited => .ok ()
  | .atMost bound =>
      if numbers.all limit.fits then .ok () else .error (.numeralTooLong bound)

@[simp]
theorem checkNumerals_unlimited (numbers : List Int) :
    checkNumerals .unlimited numbers = .ok () :=
  rfl

end CounterMachine
