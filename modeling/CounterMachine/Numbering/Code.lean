import CounterMachine.Numbering.Pairing
import CounterMachine.RegisterName

/-!
Contract: the numbers of instructions and of programs.

Owns: operations on numbered registers and their codes, the conversion between them and
instructions, and the codes of programs. A halt is zero; an increment pairs an even
number, twice its register, with its operand; a decrement pairs an odd number with the
small pair of its operands. A program is the code of the list of its instructions.

Every natural number is the number of exactly one program over numbered registers.
-/

set_option autoImplicit false

namespace CounterMachine

open Text CounterMachine.Numbering

/-- The operations that have a number, with registers by index. -/
inductive NumberedOperation where
  | halt
  | inc (register next : Nat)
  | dec (register onPositive onZero : Nat)
deriving DecidableEq, Repr

namespace NumberedOperation

def code : NumberedOperation → Nat
  | .halt => 0
  | .inc register next => bigPair (2 * register) next
  | .dec register onPositive onZero => bigPair (2 * register + 1) (smallPair onPositive onZero)

def ofCode (code : Nat) : NumberedOperation :=
  if code = 0 then .halt
  else
    let (tag, operands) := splitBig code
    if tag % 2 = 0 then .inc (tag / 2) operands
    else .dec (tag / 2) (splitSmall operands).1 (splitSmall operands).2

def operation : NumberedOperation → Operation Int
  | .halt => .halt "Halt"
  | .inc register next => .inc (numberedRegister register) next
  | .dec register onPositive onZero => .dec (numberedRegister register) onPositive onZero

/-- Index of the register that the operation counts. -/
def register? : NumberedOperation → Option Nat
  | .halt => none
  | .inc register _ | .dec register _ _ => some register

end NumberedOperation

/-! ## Encoding -/

/-- Index of a numbered register. -/
def registerIndex (limit : DigitLimit) (name : String) : Except EncodeError Nat :=
  match registerDigits? name with
  | none => .error (.unnumberedRegister name)
  | some digits =>
      match readNumeral? limit digits with
      | some index => .ok index
      | none => .error (.indexTooLong name)

def absoluteIndex (limit : DigitLimit) (line : Int) : Target → Except EncodeError Nat
  | .name text => .error (.notAbsolute (.name text) line)
  | .number value =>
      if value < 0 then do
        (checkNumerals limit [value]).mapError .violation
        .error (.notAbsolute (.number value) line)
      else .ok value.toNat

variable {Jump : Type} [Operand Jump]

/-- A decrement's operands are looked at before its register, an increment's after. -/
def Instruction.numbered (limit : DigitLimit) (body : Instruction Jump) :
    Except EncodeError NumberedOperation :=
  match body.operation with
  | .halt _ => .ok .halt
  | .inc register next => do
      let index ← registerIndex limit register
      let next ← absoluteIndex limit body.line (Operand.target next)
      return .inc index next
  | .dec register onPositive onZero => do
      let onPositive ← absoluteIndex limit body.line (Operand.target onPositive)
      let onZero ← absoluteIndex limit body.line (Operand.target onZero)
      let index ← registerIndex limit register
      return .dec index onPositive onZero
  | .init _ _ => .error (.unnumbered "init" body.line)
  | .eval _ _ _ => .error (.unnumbered "eval" body.line)

def Token.numbered (limit : DigitLimit) :
    Token Jump → Except EncodeError NumberedOperation
  | .instruction body => body.numbered limit
  | .label _ _ line => .error (.unnumbered "label" line)
  | .trace _ line => .error (.unnumbered "trace" line)

def encodeToken (limit : DigitLimit) (token : Token Jump) : Except EncodeError Nat := do
  let numbered ← token.numbered limit
  return numbered.code

def encodeTokens (limit : DigitLimit) : List (Token Jump) → Except EncodeError (List Nat)
  | [] => .ok []
  | token :: later => do
      let code ← encodeToken limit token
      let codes ← encodeTokens limit later
      return code :: codes

/-- Number of a program that may hold labels and trace markers, which have none. -/
def encode (limit : DigitLimit) (tokens : List (Token Jump)) : Except EncodeError Nat := do
  let codes ← encodeTokens limit tokens
  return encodeList codes

def Program.encode (limit : DigitLimit) (program : Program) : Except EncodeError Nat :=
  CounterMachine.encode limit program.tokens

/-! ## Decoding -/

/-- Instruction of an operation, with its canonical text as source text. The name of the register
is written first, and then the text with its jump operands. -/
def NumberedOperation.instruction (limit : DigitLimit) (numbered : NumberedOperation) :
    Except Violation (Instruction Int) := do
  checkNumerals limit (numbered.register?.toList.map Int.ofNat)
  let text ← numbered.operation.write limit
  return { operation := numbered.operation, text }

def decodeInstruction (limit : DigitLimit) (code : Int) :
    Except DecodeError (Instruction Int) :=
  if code < 0 then .error .negativeNumber
  else ((NumberedOperation.ofCode code.toNat).instruction limit).mapError .violation

/-- An instruction labelled by its place in a decoded program. -/
def Instruction.placedAt (index : Nat) (body : Instruction Jump) : Instruction Jump :=
  { body with label := some ("l" ++ decimal index) }

/-- Instructions labelled by their place, from `index` on. -/
def instructionsFrom (limit : DigitLimit) : Nat → List Nat → Except Violation Program
  | _, [] => .ok []
  | index, code :: later => do
      let body ← (NumberedOperation.ofCode code).instruction limit
      checkNumerals limit [(index : Int)]
      let rest ← instructionsFrom limit (index + 1) later
      return body.placedAt index :: rest

/-- The program whose number is `number` times two to the power of the exponent. -/
def decode (limit : DigitLimit) (number exponent : Int) : Except DecodeError Program := do
  let codes ← checkedDecodeList limit number exponent
  (instructionsFrom limit 0 codes).mapError .violation

end CounterMachine
