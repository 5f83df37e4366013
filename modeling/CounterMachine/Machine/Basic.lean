import CounterMachine.Expression.Value
import CounterMachine.Failure
import CounterMachine.Listing
import CounterMachine.Registers

/-!
Contract: what one instruction does.

Owns: the effect of an operation on the registers and on control, the line that traces
an instruction, what a run lets be seen, and the failures of a run.

Does not own: how instructions follow one another.
-/

set_option autoImplicit false

namespace CounterMachine

open Text

/-- An expression that has no value, and the description that goes with it. -/
structure EvalFailure where
  description : String
  code : String
  cause : ExpressionError
deriving DecidableEq, Repr

inductive RunError where
  | violation (cause : Violation)
  | emptyProgram
  /-- A jump outside the program, with the instruction that made it. -/
  | outOfBounds (index : Nat) (line : Int) (text : String) (target : Int) (size : Nat)
  /-- A failed expression, with the instruction that holds it. -/
  | evalFailed (index : Nat) (line : Int) (text : String) (failure : EvalFailure)
deriving DecidableEq, Repr

namespace RunError

def failure : RunError → Failure
  | .violation cause => .violation cause
  | .emptyProgram =>
      .diagnostic {
        detail := .runtime none "" none
        message := "Cannot run an empty program"
        code := .emptyProgram }
  | .outOfBounds index line text target size =>
      .diagnostic {
        detail := .runtime (some index) text none
        message :=
          "PC out of bounds from instruction line " ++ decimal line ++ ": " ++
            (if text.isEmpty then decimal index else text) ++
            " (jumped to " ++ decimal target ++ ", program has " ++ decimal size ++ ")"
        code := .outOfBounds
        span := ⟨line, ""⟩ }
  | .evalFailed index line text ⟨description, code, cause⟩ =>
      .diagnostic {
        detail := .runtime (some index) text (some (cause.report code))
        message := "eval " ++ quoted description ++ " failed: " ++ cause.message code
        code := .evalFailed
        span := ⟨line, ""⟩ }

end RunError

/-- What a run lets be seen while it goes on. -/
inductive Event where
  | traced (line : String)
  | evaluated (code : String) (value : Int)
deriving DecidableEq, Repr

/-- Where control goes after an operation. -/
inductive Effect where
  | jump (target : Int) (registers : RegisterFile) (events : List Event)
  | halt (reason : String)

/-- Effect of the operation at `index`. A decrement records its register even where it
changes nothing; an expression reads registers without recording them. -/
def Operation.effect (limit : DigitLimit) (index : Nat) (registers : RegisterFile) :
    Operation Int → Except EvalFailure Effect
  | .init register value => .ok (.jump (index + 1) (registers.write register value) [])
  | .inc register next =>
      .ok (.jump next (registers.write register (registers.value register + 1)) [])
  | .dec register onPositive onZero =>
      let current := registers.value register
      if 0 < current then .ok (.jump onPositive (registers.write register (current - 1)) [])
      else .ok (.jump onZero (registers.touch register) [])
  | .halt reason => .ok (.halt reason)
  | .eval description register code =>
      match Expression.evaluate limit registers.value code with
      | .ok value =>
          .ok (.jump (index + 1) (registers.write register value) [.evaluated code value])
      | .error cause => .error ⟨description, code, cause⟩

/-- The line that traces an instruction about to be executed. -/
def Instruction.traceText (body : Instruction Int) (registers : RegisterFile) : String :=
  "line " ++ decimal body.line ++ ": " ++
    match body.operation with
    | .init register value => "Initialising: " ++ register ++ " with " ++ decimal value
    | .inc register _ | .dec register _ _ =>
        body.text ++ " was " ++ decimal (registers.value register)
    | .halt reason => "Halting: " ++ reason
    | .eval description register _ => register ++ " ::= " ++ description

/-- The register value that the tracing line shows. -/
def Instruction.tracedNumbers (body : Instruction Int) (registers : RegisterFile) : List Int :=
  match body.operation with
  | .init _ value => [value]
  | .inc register _ | .dec register _ _ => [registers.value register]
  | .halt _ | .eval _ _ _ => []

def Instruction.traceLine (limit : DigitLimit) (body : Instruction Int)
    (registers : RegisterFile) : Except Violation String := do
  checkNumerals limit (body.tracedNumbers registers)
  return body.traceText registers

end CounterMachine
