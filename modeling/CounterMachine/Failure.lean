import CounterMachine.Diagnostic
import CounterMachine.Violation

/-!
Contract: the two ways in which a call can fail.

Owns: the sum of diagnostics and violations, in which every stage reports.
-/

set_option autoImplicit false

namespace CounterMachine

inductive Failure where
  | diagnostic (diagnostic : Diagnostic)
  | violation (violation : Violation)
deriving DecidableEq, Repr

end CounterMachine
