import CounterMachine.Failure
import CounterMachine.Instruction
import CounterMachine.Listing

/-!
Contract: the failures of numbering.

Owns: the reasons why a program has no number and why a number is not decoded, with
their wording.
-/

set_option autoImplicit false

namespace CounterMachine

open Text

inductive EncodeError where
  | violation (cause : Violation)
  | unnumberedRegister (name : String)
  | indexTooLong (name : String)
  | notAbsolute (target : Target) (line : Int)
  /-- Only halts, increments and decrements have a number. -/
  | unnumbered (kind : String) (line : Int)
deriving DecidableEq, Repr

def Target.quoted : Target → String
  | .name text => Text.quoted text
  | .number value => decimal value

namespace EncodeError

def diagnosticAt (line : Int) (message : String) : Failure :=
  .diagnostic {
    detail := .encode
    message
    code := .notEncodable
    span := ⟨line, ""⟩ }

def failure : EncodeError → Failure
  | .violation cause => .violation cause
  | .unnumberedRegister name =>
      diagnosticAt 0 ("register " ++ quoted name ++ " is not of the form r<k>")
  | .indexTooLong name =>
      diagnosticAt 0
        ("register index of " ++ String.ofList (name.toList.take 20) ++
          "... is too long to number")
  | .notAbsolute target line =>
      diagnosticAt line ("jump target " ++ target.quoted ++ " is not an absolute index")
  | .unnumbered kind line => diagnosticAt line (kind ++ " instructions have no number")

end EncodeError

inductive DecodeError where
  | violation (cause : Violation)
  | bigPairBelowOne
  | smallPairNegative
  | negativeNumber
  | negativeExponent (exponent : Int)
deriving DecidableEq, Repr

namespace DecodeError

def message : DecodeError → String
  | .violation cause => cause.message
  | .bigPairBelowOne => "<<x, y>> is always positive, cannot decode a number below 1"
  | .smallPairNegative => "<x, y> is a natural number, cannot decode a negative number"
  | .negativeNumber => "cannot decode a negative number"
  | .negativeExponent exponent =>
      "start exponent must be a natural number, got " ++ decimal exponent

def failure (error : DecodeError) : Failure :=
  match error with
  | .violation cause => .violation cause
  | _ => .diagnostic { detail := .decode, message := error.message, code := .notDecodable }

end DecodeError

end CounterMachine
