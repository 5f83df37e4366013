import CounterMachine.Numbering.Code
import CounterMachine.Proofs.Numbering.Pairing
import CounterMachine.Proofs.Sequencing
import CounterMachine.Proofs.Text.Decimal

/-!
Contract: numbered operations are in bijection with the naturals.

Owns: both directions of the bijection, the index of a register name, and the numbered
operation of an instruction: which instructions have one, and which instruction it decodes
to.

Does not own: the numbers of programs.

Without a limit on digits a register has an index exactly when it is the letter r before
decimal digits. The index is read from the digits and written back in the one spelling
without leading zeros, so a name and its index are not in bijection; a name that a number
decodes to and its index are.
-/

set_option autoImplicit false

namespace CounterMachine

open Text CounterMachine.Numbering

/-! ## Codes -/

namespace NumberedOperation

@[simp]
theorem ofCode_code (numbered : NumberedOperation) : ofCode numbered.code = numbered := by
  cases numbered with
  | halt => rfl
  | inc register next =>
      have nonzero : bigPair (2 * register) next ≠ 0 := Nat.ne_of_gt (bigPair_pos _ _)
      have even : 2 * register % 2 = 0 := by omega
      have half : 2 * register / 2 = register := by omega
      rw [code, ofCode, if_neg nonzero, splitBig_bigPair]
      show (if 2 * register % 2 = 0 then NumberedOperation.inc (2 * register / 2) next
        else _) = _
      rw [if_pos even, half]
  | dec register onPositive onZero =>
      have nonzero : bigPair (2 * register + 1) (smallPair onPositive onZero) ≠ 0 :=
        Nat.ne_of_gt (bigPair_pos _ _)
      have odd : ¬ (2 * register + 1) % 2 = 0 := by omega
      have half : (2 * register + 1) / 2 = register := by omega
      rw [code, ofCode, if_neg nonzero, splitBig_bigPair]
      show (if (2 * register + 1) % 2 = 0 then _
        else NumberedOperation.dec ((2 * register + 1) / 2)
          (splitSmall (smallPair onPositive onZero)).1
          (splitSmall (smallPair onPositive onZero)).2) = _
      rw [if_neg odd, half, splitSmall_smallPair]

@[simp]
theorem code_ofCode (number : Nat) : (ofCode number).code = number := by
  by_cases zero : number = 0
  · rw [ofCode, if_pos zero, zero]
    rfl
  · have pair := bigPair_splitBig number (Nat.pos_of_ne_zero zero)
    rw [ofCode, if_neg zero]
    show (if (splitBig number).1 % 2 = 0 then
        NumberedOperation.inc ((splitBig number).1 / 2) (splitBig number).2
      else .dec ((splitBig number).1 / 2) (splitSmall (splitBig number).2).1
        (splitSmall (splitBig number).2).2).code = number
    by_cases even : (splitBig number).1 % 2 = 0
    · have double : 2 * ((splitBig number).1 / 2) = (splitBig number).1 := by omega
      rw [if_pos even, code, double, pair]
    · have double : 2 * ((splitBig number).1 / 2) + 1 = (splitBig number).1 := by omega
      rw [if_neg even, code, double, smallPair_splitSmall, pair]

theorem code_inj {left right : NumberedOperation} : left.code = right.code ↔ left = right := by
  refine ⟨fun same => ?_, congrArg code⟩
  rw [← ofCode_code left, same, ofCode_code]

end NumberedOperation

/-! ## Register indices -/

@[simp]
theorem registerIndex_numberedRegister (index : Nat) :
    registerIndex .unlimited (numberedRegister index) = .ok index := by
  simp only [registerIndex, registerDigits?_numberedRegister, readNumeral?_unlimited,
    numeralValue_decimalDigits]

/-- Numbered registers are the same register when their indices are. -/
theorem numberedRegister_inj {left right : Nat} :
    numberedRegister left = numberedRegister right ↔ left = right := by
  refine ⟨fun same => ?_, congrArg numberedRegister⟩
  have read := congrArg (registerIndex .unlimited) same
  rw [registerIndex_numberedRegister, registerIndex_numberedRegister] at read
  exact Except.ok.inj read

/-! ## Instructions -/

theorem absoluteIndex_natCast (limit : DigitLimit) (line : Int) (value : Nat) :
    absoluteIndex limit line (.number value) = .ok value := by
  rw [absoluteIndex, if_neg (by omega), Int.toNat_natCast]

/-- An operand has an absolute index exactly when it is that natural number. -/
theorem absoluteIndex_eq_ok_iff {line value : Int} {index : Nat} :
    absoluteIndex .unlimited line (.number value) = .ok index ↔ value = index := by
  by_cases negative : value < 0
  · have refused : absoluteIndex .unlimited line (.number value) =
        .error (.notAbsolute (.number value) line) := by
      rw [absoluteIndex, if_pos negative]
      rfl
    rw [refused]
    constructor
    · intro impossible
      cases impossible
    · intro same
      omega
  · rw [absoluteIndex, if_neg negative]
    constructor
    · intro read
      have natural := Except.ok.inj read
      omega
    · intro same
      rw [same, Int.toNat_natCast]

/-- An operation has the number of another that acts the same on a register by index. -/
inductive Operation.NumberedAs : Operation Int → NumberedOperation → Prop where
  | halt (reason : String) : NumberedAs (.halt reason) .halt
  | inc {register : String} {index : Nat} (next : Nat)
      (named : registerIndex .unlimited register = .ok index) :
      NumberedAs (.inc register next) (.inc index next)
  | dec {register : String} {index : Nat} (onPositive onZero : Nat)
      (named : registerIndex .unlimited register = .ok index) :
      NumberedAs (.dec register onPositive onZero) (.dec index onPositive onZero)

theorem NumberedOperation.operation_numberedAs (numbered : NumberedOperation) :
    numbered.operation.NumberedAs numbered := by
  cases numbered with
  | halt => exact .halt "Halt"
  | inc register next => exact .inc next (registerIndex_numberedRegister register)
  | dec register onPositive onZero =>
      exact .dec onPositive onZero (registerIndex_numberedRegister register)

/-- Reading off the number of an instruction looks at its operation only. -/
theorem Instruction.numbered_eq_ok_iff {body : Instruction Int} {numbered : NumberedOperation} :
    body.numbered .unlimited = .ok numbered ↔ body.operation.NumberedAs numbered := by
  obtain ⟨operation, text, line, trace, label⟩ := body
  constructor
  · intro read
    cases operation with
    | halt reason =>
        cases read
        exact .halt reason
    | inc register next =>
        obtain ⟨index, named, read⟩ := bind_eq_ok.mp read
        obtain ⟨place, natural, read⟩ := bind_eq_ok.mp read
        cases read
        rw [absoluteIndex_eq_ok_iff.mp natural]
        exact .inc place named
    | dec register onPositive onZero =>
        obtain ⟨positivePlace, positiveNatural, read⟩ := bind_eq_ok.mp read
        obtain ⟨zeroPlace, zeroNatural, read⟩ := bind_eq_ok.mp read
        obtain ⟨index, named, read⟩ := bind_eq_ok.mp read
        cases read
        rw [absoluteIndex_eq_ok_iff.mp positiveNatural, absoluteIndex_eq_ok_iff.mp zeroNatural]
        exact .dec positivePlace zeroPlace named
    | init register value => cases read
    | eval description register code => cases read
  · intro agrees
    cases agrees with
    | halt reason => rfl
    | inc next named =>
        exact bind_eq_ok.mpr ⟨_, named, bind_eq_ok.mpr
          ⟨next, absoluteIndex_natCast .unlimited line next, rfl⟩⟩
    | dec onPositive onZero named =>
        exact bind_eq_ok.mpr ⟨onPositive, absoluteIndex_natCast .unlimited line onPositive,
          bind_eq_ok.mpr ⟨onZero, absoluteIndex_natCast .unlimited line onZero,
            bind_eq_ok.mpr ⟨_, named, rfl⟩⟩⟩

end CounterMachine
