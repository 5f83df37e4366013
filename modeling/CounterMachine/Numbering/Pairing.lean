import CounterMachine.Numbering.Error

/-!
Contract: pairs of naturals and lists of naturals as single naturals.

Owns: two pairings and the code of lists built from them. The big pair of `x` and `y` is
`2 ^ x * (2 * y + 1)` and is never zero; the small pair is its predecessor. A list is
zero when empty, and else the big pair of its head and the code of its tail, so that
each element is a run of zero bits ended by a one.

The checked forms take integers and refuse those outside their domain.
-/

set_option autoImplicit false

namespace CounterMachine.Numbering

open Text

/-! ## Pairs -/

/-- The odd number `2 * y + 1` with `x` zero bits behind it. -/
def bigPair (x y : Nat) : Nat :=
  (2 * y + 1) <<< x

def smallPair (x y : Nat) : Nat :=
  bigPair x y - 1

/-- Exponent of two in a positive number: the number and its predecessor differ in the
lowest one bit and in the bits below it. -/
def twos (number : Nat) : Nat :=
  Nat.log2 (number ^^^ (number - 1))

/-- The two numbers that a positive number pairs. -/
def splitBig (number : Nat) : Nat × Nat :=
  (twos number, number >>> (twos number + 1))

def splitSmall (number : Nat) : Nat × Nat :=
  splitBig (number + 1)

def checkedBigPair (limit : DigitLimit) (x y : Int) : Except Violation Nat :=
  if x < 0 ∨ y < 0 then do
    checkNumerals limit [x, y]
    .error (.negativePair x y)
  else .ok (bigPair x.toNat y.toNat)

def checkedSmallPair (limit : DigitLimit) (x y : Int) : Except Violation Nat := do
  let number ← checkedBigPair limit x y
  return number - 1

def checkedSplitBig (number : Int) : Except DecodeError (Nat × Nat) :=
  if number < 1 then .error .bigPairBelowOne else .ok (splitBig number.toNat)

def checkedSplitSmall (number : Int) : Except DecodeError (Nat × Nat) :=
  if number < 0 then .error .smallPairNegative else .ok (splitSmall number.toNat)

/-! ## Lists -/

def encodeList : List Nat → Nat
  | [] => 0
  | head :: tail => bigPair head (encodeList tail)

/-- Elements of a code, of which there are no more than it has bits. -/
def decodeListWithin : Nat → Nat → List Nat
  | 0, _ => []
  | bits + 1, number =>
      if number = 0 then []
      else
        let (head, tail) := splitBig number
        head :: decodeListWithin bits tail

def decodeList (number : Nat) : List Nat :=
  decodeListWithin (number.log2 + 1) number

/-- Adds to the first element, as multiplying the code by a power of two does. -/
def raiseFirst (exponent : Nat) : List Nat → List Nat
  | [] => []
  | head :: tail => (head + exponent) :: tail

/-- Pairs from the end of the list, so the last value outside the naturals is refused. -/
def checkedEncodeList (limit : DigitLimit) : List Int → Except Violation Nat
  | [] => .ok 0
  | head :: tail => do
      let code ← checkedEncodeList limit tail
      checkedBigPair limit head code

/-- The list whose code is the number times two to the power of the exponent. -/
def checkedDecodeList (limit : DigitLimit) (number exponent : Int) :
    Except DecodeError (List Nat) :=
  if number < 0 then .error .negativeNumber
  else if exponent < 0 then do
    (checkNumerals limit [exponent]).mapError .violation
    .error (.negativeExponent exponent)
  else .ok (raiseFirst exponent.toNat (decodeList number.toNat))

end CounterMachine.Numbering
