import CounterMachine.Text.Numeral
import CounterMachine.Text.Quoted

/-!
Contract: texts as sequences of bytes.

Owns: decoding of UTF-8 with the place and reason of the first fault, and the reduction
of all line ends to the line feed.

Overlong forms, surrogates and code points past the last one are faults at the first
byte that rules the sequence out.
-/

set_option autoImplicit false

namespace CounterMachine.Text

inductive Utf8Fault.Reason where
  | invalidStart
  | invalidContinuation
  | unexpectedEnd
deriving DecidableEq, Repr

def Utf8Fault.Reason.message : Utf8Fault.Reason → String
  | .invalidStart => "invalid start byte"
  | .invalidContinuation => "invalid continuation byte"
  | .unexpectedEnd => "unexpected end of data"

/-- The bytes from `first` to `last` are no character; `lead` is the first of them. -/
structure Utf8Fault where
  first : Nat
  last : Nat
  lead : Nat
  reason : Utf8Fault.Reason
deriving DecidableEq, Repr

def Utf8Fault.message (fault : Utf8Fault) : String :=
  let place :=
    if fault.first = fault.last then
      "byte 0x" ++ String.ofList (hexadecimal 2 fault.lead) ++ " in position " ++
        decimal fault.first
    else "bytes in position " ++ decimal fault.first ++ "-" ++ decimal fault.last
  "'utf-8' codec can't decode " ++ place ++ ": " ++ fault.reason.message

/-- Bytes of a sequence that starts with the byte; zero where none does. -/
def sequenceLength (lead : Nat) : Nat :=
  if lead < 0x80 then 1
  else if lead < 0xC2 then 0
  else if lead < 0xE0 then 2
  else if lead < 0xF0 then 3
  else if lead < 0xF5 then 4
  else 0

/-- Value bits of the first byte of a sequence. -/
def leadBits (lead : Nat) : Nat :=
  if lead < 0x80 then lead
  else if lead < 0xE0 then lead - 0xC0
  else if lead < 0xF0 then lead - 0xE0
  else lead - 0xF0

def isContinuation (byte : Nat) : Bool :=
  0x80 ≤ byte && byte < 0xC0

/-- The second byte also has to keep the code point in the range of the sequence. -/
def isSecond (lead byte : Nat) : Bool :=
  isContinuation byte &&
    (lead != 0xE0 || 0xA0 ≤ byte) && (lead != 0xED || byte < 0xA0) &&
    (lead != 0xF0 || 0x90 ≤ byte) && (lead != 0xF4 || byte < 0x90)

/-- A sequence of which `missing` bytes have not been read. -/
structure OpenSequence where
  start : Nat
  lead : Nat
  value : Nat
  missing : Nat

def OpenSequence.accepts (sequence : OpenSequence) (position byte : Nat) : Bool :=
  if position = sequence.start + 1 then isSecond sequence.lead byte else isContinuation byte

def decodeUtf8From (position : Nat) :
    Option OpenSequence → List UInt8 → Except Utf8Fault (List Char)
  | none, [] => .ok []
  | some sequence, [] =>
      .error ⟨sequence.start, position - 1, sequence.lead, .unexpectedEnd⟩
  | none, byte :: later =>
      let lead := byte.toNat
      match sequenceLength lead with
      | 0 => .error ⟨position, position, lead, .invalidStart⟩
      | 1 => do
          let characters ← decodeUtf8From (position + 1) none later
          return Char.ofNat lead :: characters
      | missing + 1 =>
          decodeUtf8From (position + 1) (some ⟨position, lead, leadBits lead, missing⟩) later
  | some sequence, byte :: later =>
      let value := 64 * sequence.value + (byte.toNat - 0x80)
      if !sequence.accepts position byte.toNat then
        .error ⟨sequence.start, position - 1, sequence.lead, .invalidContinuation⟩
      else if sequence.missing = 1 then do
        let characters ← decodeUtf8From (position + 1) none later
        return Char.ofNat value :: characters
      else
        decodeUtf8From (position + 1)
          (some { sequence with value, missing := sequence.missing - 1 }) later

def decodeUtf8 (bytes : List UInt8) : Except Utf8Fault (List Char) :=
  decodeUtf8From 0 none bytes

def unifyLineEnds : List Char → List Char
  | [] => []
  | '\r' :: '\n' :: rest => '\n' :: unifyLineEnds rest
  | '\r' :: rest => '\n' :: unifyLineEnds rest
  | character :: rest => character :: unifyLineEnds rest

/-- Text of a file, with line feeds at all line ends. -/
def readText (bytes : List UInt8) : Except Utf8Fault String := do
  let characters ← decodeUtf8 bytes
  return String.ofList (unifyLineEnds characters)

end CounterMachine.Text
