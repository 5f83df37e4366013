import CounterMachine.Numbering.Code
import CounterMachine.Numbering.Derivation

/-!
Contract: the derivation of a number from a program and of a program from a number.

Owns: the lines that explain an encoding or a decoding, in order. Where every line can be
written, an explained result is the plain one.
-/

set_option autoImplicit false

namespace CounterMachine

open Text CounterMachine.Numbering

/-! ## Encoding -/

/-- How the code of an operation is put together. -/
def NumberedOperation.encoding : NumberedOperation → List DerivationLine
  | .halt => []
  | .inc register next => [.bigPair (2 * register) next]
  | .dec register onPositive onZero =>
      [.smallPair onPositive onZero,
        .bigPair (2 * register + 1) (smallPair onPositive onZero)]

variable {Jump : Type} [Operand Jump]

def explainToken (limit : DigitLimit) (token : Token Jump) : Derivation EncodeError Nat := do
  let numbered ← .silent (token.numbered limit)
  .stateAll .violation limit numbered.encoding
  return numbered.code

/-- Source text of a token, or the canonical text where the source is unknown. -/
def Token.heading (limit : DigitLimit) (token : Token Jump) : Except Violation String :=
  let known :=
    match token with
    | .label _ text _ => text
    | .trace text _ => text
    | .instruction body => body.text
  if known.isEmpty then token.write limit else .ok known

/-- Codes of tokens, each under its heading. -/
def explainCodes (limit : DigitLimit) :
    List (Token Jump) → Derivation EncodeError (List Nat)
  | [] => return []
  | token :: later => do
      let heading ← .silent ((token.heading limit).mapError .violation)
      .line heading
      let code ← explainToken limit token
      .state .violation limit (.instruction code)
      let codes ← explainCodes limit later
      return code :: codes

def explainEncoding (limit : DigitLimit) (tokens : List (Token Jump)) :
    Derivation EncodeError Nat := do
  let codes ← explainCodes limit tokens
  let number := encodeList codes
  .state .violation limit (.program number)
  return number

/-! ## Decoding -/

/-- How the code of an instruction is taken apart. -/
def decodingOf (code : Nat) : List DerivationLine :=
  if code = 0 then []
  else
    let (tag, operands) := splitBig code
    if tag % 2 = 0 then [.bigSplit code tag operands, .evenTag]
    else
      let (onPositive, onZero) := splitSmall operands
      [.bigSplit code tag operands, .oddTag, .smallSplit operands onPositive onZero]

def explainInstruction (limit : DigitLimit) (code : Nat) :
    Derivation DecodeError (Instruction Int) := do
  .stateAll .violation limit (decodingOf code)
  .silent (((NumberedOperation.ofCode code).instruction limit).mapError .violation)

/-- Instructions from `index` on; each closes its lines. -/
def explainInstructions (limit : DigitLimit) :
    Nat → List Nat → Derivation DecodeError Program
  | _, [] => return []
  | index, code :: later => do
      let body ← explainInstruction limit code
      .silent ((checkNumerals limit [(index : Int)]).mapError .violation)
      .line ("L" ++ decimal index ++ ": " ++ body.text)
      let rest ← explainInstructions limit (index + 1) later
      return body.placedAt index :: rest

def explainCode (limit : DigitLimit) (code : Int) : Derivation DecodeError (Instruction Int) :=
  if code < 0 then .silent (.error .negativeNumber)
  else explainInstruction limit code.toNat

def explainDecoding (limit : DigitLimit) (number exponent : Int) :
    Derivation DecodeError Program := do
  let codes ← .silent (checkedDecodeList limit number exponent)
  .stateAll .violation limit
    [.bits number.toNat, .list exponent.toNat number.toNat codes]
  explainInstructions limit 0 codes

end CounterMachine
