import CounterMachine.Diagnostic
import CounterMachine.Source.Tokens
import CounterMachine.Table

/-!
Contract: from tokens to a program whose jumps are absolute indices.

Owns: the label table, the attachment of labels and trace flags to the instruction
that follows them, the resolution of jump operands, and `compile`, which reads and
links a text. The last declaration of a label counts, wherever the jump stands.

Does not own: whether an index lies inside the program.
-/

set_option autoImplicit false

namespace CounterMachine

open Text

inductive LinkError.Cause where
  | undefined
  | dangling
  | tooLarge
deriving DecidableEq, Repr

/-- The operand that could not be resolved and the line of its instruction. -/
structure LinkError where
  label : String
  line : Int
  cause : LinkError.Cause
deriving DecidableEq, Repr

def LinkError.Cause.code : LinkError.Cause → ErrorCode
  | .undefined => .undefinedLabel
  | .dangling => .danglingLabel
  | .tooLarge => .targetTooLarge

def LinkError.diagnostic (error : LinkError) : Diagnostic :=
  .unlinked error.label error.line error.cause.code

/-- Instructions in order, each with the last label and any trace marker before it. -/
def attach (label : Option String) (traced : Bool) :
    List (Token Target) → List (Instruction Target)
  | [] => []
  | .label name _ _ :: later => attach (some name) traced later
  | .trace _ _ :: later => attach label true later
  | .instruction body :: later =>
      { body with trace := traced, label := label } :: attach none false later

/-- Index of the instruction that follows each label; `index` instructions came before. -/
def labelsFrom (index : Nat) (labels : Table Nat) : List (Token Target) → Table Nat
  | [] => labels
  | .label name _ _ :: later => labelsFrom index (labels.insert name index) later
  | .trace _ _ :: later => labelsFrom index labels later
  | .instruction _ :: later => labelsFrom (index + 1) labels later

def labelTable (tokens : List (Token Target)) : Table Nat :=
  labelsFrom 0 .empty tokens

/-- Absolute index for an operand of the instruction at `index`. A number is an offset,
a run of decimal digits is an index, and every other name is a label. -/
def resolveTarget (limit : DigitLimit) (labels : Table Nat) (size index : Nat) (line : Int) :
    Target → Except LinkError Int
  | .number offset => .ok (index + offset)
  | .name name =>
      if isNumeral name.toList then
        match readNumeral? limit name.toList with
        | some value => .ok value
        | none => .error ⟨name, line, .tooLarge⟩
      else
        match labels.get? name with
        | none => .error ⟨name, line, .undefined⟩
        | some place => if place < size then .ok place else .error ⟨name, line, .dangling⟩

def linkFrom (limit : DigitLimit) (labels : Table Nat) (size : Nat) :
    Nat → List (Instruction Target) → Except LinkError Program
  | _, [] => .ok []
  | index, body :: later => do
      let operation ←
        body.operation.mapOperands (resolveTarget limit labels size index body.line)
      let rest ← linkFrom limit labels size (index + 1) later
      return ⟨operation, body.text, body.line, body.trace, body.label⟩ :: rest

def link (limit : DigitLimit) (tokens : List (Token Target)) : Except LinkError Program :=
  let instructions := attach none false tokens
  linkFrom limit (labelTable tokens) instructions.length 0 instructions

inductive CompileError where
  | parse (error : ParseError)
  | link (error : LinkError)
deriving DecidableEq, Repr

def CompileError.diagnostic : CompileError → Diagnostic
  | .parse error => error.diagnostic
  | .link error => error.diagnostic

def compile (limit : DigitLimit) (source : String) (file : String := "") :
    Except CompileError Program := do
  let tokens ← (parse limit source file).mapError .parse
  (link limit tokens).mapError .link

end CounterMachine
