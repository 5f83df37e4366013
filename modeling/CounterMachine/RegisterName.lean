import CounterMachine.Text.Numeral

/-!
Contract: the numbered registers r0, r1, r2 and so on.

Owns: the name of a numbered register and the digits of such a name. A name may have
leading zeros or digits of another script, so several names can share an index.
-/

set_option autoImplicit false

namespace CounterMachine

open Text

def numberedRegister (index : Nat) : String :=
  "r" ++ decimal index

/-- The digits behind the letter, where the name has no other form. -/
def registerDigits? (name : String) : Option (List Char) :=
  match name.toList with
  | 'r' :: digits => if isNumeral digits then some digits else none
  | _ => none

end CounterMachine
