import CounterMachine.Text.Quoted
import CounterMachine.Violation

/-!
Contract: the instruction set.

Owns: jump operands as written, the five operations over any kind of operand, the
instructions and tokens that carry them, the operands control may flow to, and the
sense in which two instructions do the same thing.

An operation is written over `Target` before linking, when an operand is a name or
an offset, and over `Int` after it, when an operand is an absolute index.

Does not own: the text of an instruction in a listing, and the reading of one.
-/

set_option autoImplicit false

namespace CounterMachine

open Text

/-- A jump operand as written. -/
inductive Target where
  | name (text : String)
  | number (value : Int)
deriving DecidableEq, Repr

/-- Kinds of operand that have a written form. -/
class Operand (Jump : Type) where
  target : Jump → Target

instance : Operand Target := ⟨id⟩

instance : Operand Int := ⟨.number⟩

inductive Operation (Jump : Type) where
  | init (register : String) (value : Int)
  | inc (register : String) (next : Jump)
  | dec (register : String) (onPositive onZero : Jump)
  | halt (reason : String)
  | eval (description register code : String)
deriving DecidableEq, Repr

namespace Operation

variable {Jump Other : Type}

/-- Where control may go next; `following` is the place after the instruction. A
decrement takes its first operand when the register is positive. -/
def jumpTargets (following : Jump) : Operation Jump → List Jump
  | .inc _ next => [next]
  | .dec _ onPositive onZero => [onPositive, onZero]
  | .halt _ => []
  | .init _ _ | .eval _ _ _ => [following]

/-- The operation with the reason of a halt forgotten. -/
def action : Operation Jump → Operation Jump
  | .halt _ => .halt ""
  | operation => operation

def sameAction [DecidableEq Jump] (left right : Operation Jump) : Bool :=
  left.action == right.action

/-- Replaces the jump operands, the positive branch of a decrement first. -/
def mapOperands {Failure : Type} (resolve : Jump → Except Failure Other) :
    Operation Jump → Except Failure (Operation Other)
  | .init register value => .ok (.init register value)
  | .inc register next => do
      let next ← resolve next
      return .inc register next
  | .dec register onPositive onZero => do
      let onPositive ← resolve onPositive
      let onZero ← resolve onZero
      return .dec register onPositive onZero
  | .halt reason => .ok (.halt reason)
  | .eval description register code => .ok (.eval description register code)

end Operation

/-- An operation with its source text and line, and with the label and the trace flag
that stood before it. Line zero stands for an unknown line. -/
structure Instruction (Jump : Type) where
  operation : Operation Jump
  text : String := ""
  line : Int := 0
  trace : Bool := false
  label : Option String := none
deriving DecidableEq, Repr

/-- A linked program. -/
abbrev Program := List (Instruction Int)

/-- What a source text is made of: labels and trace markers refer to the instruction
that follows. -/
inductive Token (Jump : Type) where
  | label (name text : String) (line : Int)
  | trace (text : String) (line : Int)
  | instruction (body : Instruction Jump)
deriving DecidableEq, Repr

namespace Token

variable {Jump : Type}

def asInstruction : Token Jump → Except Violation (Instruction Jump)
  | .instruction body => .ok body
  | .label name text line =>
      .error (.notAnInstruction
        ("Label(name=" ++ quoted name ++ ", text=" ++ quoted text ++ ", line=" ++
          decimal line ++ ")"))
  | .trace text line =>
      .error (.notAnInstruction
        ("Trace(text=" ++ quoted text ++ ", line=" ++ decimal line ++ ")"))

/-- Tokens agree when they do the same thing: neither text, line, label and trace flag nor
the reason of a halt is compared. -/
def agrees [DecidableEq Jump] : Token Jump → Token Jump → Bool
  | .label left _ _, .label right _ _ => left == right
  | .trace _ _, .trace _ _ => true
  | .instruction left, .instruction right => left.operation.sameAction right.operation
  | _, _ => false

def jumpTargets (token : Token Jump) (following : Jump) : Except Violation (List Jump) := do
  let body ← token.asInstruction
  return body.operation.jumpTargets following

end Token

/-- Programs agree when their instructions do the same thing, place by place. -/
def Program.agrees : Program → Program → Bool
  | [], [] => true
  | left :: lefts, right :: rights =>
      left.operation.sameAction right.operation && Program.agrees lefts rights
  | _, _ => false

end CounterMachine
