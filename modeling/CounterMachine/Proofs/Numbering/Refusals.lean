import CounterMachine.Proofs.Limits
import CounterMachine.Proofs.Linking
import CounterMachine.Proofs.Numbering.Programs

/-!
Contract: how encoding and decoding fail under a limit on digits.

Owns: that a refused program is reported as one that has no number, unless a negative jump
operand of it is too long to be shown; and that natural numbers are decoded as without a limit,
unless a number that is too long would have to be written into an instruction, as an operand, as
the index of its register or as its place.

Does not own: which programs have a number, and which program a number has.
-/

set_option autoImplicit false

namespace CounterMachine

open Text CounterMachine.Numbering

/-- The error is reported as one of numbering. -/
def EncodeError.Reported (error : EncodeError) : Prop :=
  ∃ diagnostic, error.failure = .diagnostic diagnostic ∧ diagnostic.family = .encode

variable {limit : DigitLimit} {error : EncodeError}

private theorem registerIndex_reported {name : String}
    (refused : registerIndex limit name = .error error) : error.Reported := by
  unfold registerIndex at refused
  split at refused
  · cases refused
    exact ⟨_, rfl, rfl⟩
  · split at refused
    · cases refused
    · cases refused
      exact ⟨_, rfl, rfl⟩

private theorem absoluteIndex_reported {line value : Int}
    (refused : absoluteIndex limit line (.number value) = .error error)
    (shown : value < 0 → limit.fits value = true) : error.Reported := by
  by_cases negative : value < 0
  · have fitting : ∀ number ∈ [value], limit.fits number = true := by
      simpa using shown negative
    rw [absoluteIndex, if_pos negative, checkNumerals_eq_ok fitting] at refused
    cases refused
    exact ⟨_, rfl, rfl⟩
  · rw [absoluteIndex, if_neg negative] at refused
    cases refused

/-- The negative jump operands of the operation are short enough to be shown. -/
def Operation.Showable (limit : DigitLimit) (operation : Operation Int) : Prop :=
  ∀ target ∈ operation.operands, target < 0 → limit.fits target = true

private theorem numbered_reported {body : Instruction Int}
    (showable : body.operation.Showable limit) (refused : body.numbered limit = .error error) :
    error.Reported := by
  obtain ⟨operation, text, line, trace, label⟩ := body
  cases operation with
  | halt reason => cases refused
  | init register value =>
      cases refused
      exact ⟨_, rfl, rfl⟩
  | eval description register code =>
      cases refused
      exact ⟨_, rfl, rfl⟩
  | inc register next =>
      rcases bind_eq_error.mp refused with unnamed | ⟨index, -, refused⟩
      · exact registerIndex_reported unnamed
      · rcases bind_eq_error.mp refused with notAbsolute | ⟨place, -, accepted⟩
        · exact absoluteIndex_reported notAbsolute (showable next List.mem_cons_self)
        · cases accepted
  | dec register onPositive onZero =>
      rcases bind_eq_error.mp refused with notAbsolute | ⟨positivePlace, -, refused⟩
      · exact absoluteIndex_reported notAbsolute (showable onPositive List.mem_cons_self)
      · rcases bind_eq_error.mp refused with notAbsolute | ⟨zeroPlace, -, refused⟩
        · exact absoluteIndex_reported notAbsolute
            (showable onZero (List.mem_cons_of_mem _ List.mem_cons_self))
        · rcases bind_eq_error.mp refused with unnamed | ⟨index, -, accepted⟩
          · exact registerIndex_reported unnamed
          · cases accepted

private theorem encodeTokens_reported {program : Program}
    (showable : ∀ body ∈ program, body.operation.Showable limit)
    (refused : encodeTokens limit program.tokens = .error error) : error.Reported := by
  induction program with
  | nil => cases refused
  | cons body later inductionHypothesis =>
      rcases bind_eq_error.mp refused with refusedHere | ⟨code, -, refused⟩
      · rcases bind_eq_error.mp refusedHere with refusedHere | ⟨numbered, -, accepted⟩
        · exact numbered_reported (showable body List.mem_cons_self) refusedHere
        · cases accepted
      · rcases bind_eq_error.mp refused with refusedLater | ⟨codes, -, accepted⟩
        · exact inductionHypothesis
            (fun other member => showable other (List.mem_cons_of_mem body member)) refusedLater
        · cases accepted

theorem Program.encode_reported {program : Program}
    (showable : ∀ body ∈ program, body.operation.Showable limit)
    (refused : program.encode limit = .error error) : error.Reported := by
  rcases bind_eq_error.mp refused with refused | ⟨codes, -, accepted⟩
  · exact encodeTokens_reported showable refused
  · cases accepted

/-! ## Decoding -/

/-- Register that the operation counts or sets. -/
def Operation.register? : Operation Int → Option String
  | .init register _ | .inc register _ | .dec register _ _ | .eval _ register _ => some register
  | .halt _ => none

/-- Every number that is written into the instruction is within the limit: in its text, in the
name of its register and in its label. -/
structure Instruction.Within (limit : DigitLimit) (body : Instruction Int) : Prop where
  text : body.operation.Within limit
  register : ∀ index : Nat, body.operation.register? = some (numberedRegister index) →
    limit.fits index = true
  label : ∀ index : Nat, body.label = some ("l" ++ decimal index) → limit.fits index = true

/-- The numbers in the text of the operation and in the name of its register are within the
limit. -/
def NumberedOperation.Within (limit : DigitLimit) (numbered : NumberedOperation) : Prop :=
  numbered.operation.Within limit ∧
    ∀ index ∈ numbered.register?, limit.fits (index : Nat) = true

private theorem register?_operation (numbered : NumberedOperation) :
    numbered.operation.register? = numbered.register?.map numberedRegister := by
  cases numbered <;> rfl

/-- The name of a register tells its index. -/
private theorem forall_register_iff {numbered : NumberedOperation} :
    (∀ index : Nat, numbered.operation.register? = some (numberedRegister index) →
      limit.fits index = true) ↔ ∀ index ∈ numbered.register?, limit.fits (index : Nat) = true := by
  have named : ∀ index : Nat,
      numbered.operation.register? = some (numberedRegister index) ↔
        index ∈ numbered.register? := by
    intro index
    rw [register?_operation, Option.map_eq_some_iff, Option.mem_def]
    exact ⟨fun ⟨other, is, same⟩ => numberedRegister_inj.mp same ▸ is, fun is => ⟨index, is, rfl⟩⟩
  simp only [named]

/-- The index of the register is the number that is written first. -/
private theorem forall_indices_iff {numbered : NumberedOperation} :
    (∀ value ∈ numbered.register?.toList.map Int.ofNat, limit.fits value = true) ↔
      ∀ index ∈ numbered.register?, limit.fits (index : Nat) = true := by
  simp

/-- Without a limit every operation has an instruction. -/
private theorem instruction_unlimited (numbered : NumberedOperation) :
    numbered.instruction .unlimited =
      .ok { operation := numbered.operation, text := numbered.operation.text } := by
  rw [NumberedOperation.instruction, checkNumerals_unlimited, ok_bind,
    Operation.write_of_within fun _ _ => rfl]
  rfl

private theorem instruction_of_within {numbered : NumberedOperation}
    (within : numbered.Within limit) :
    numbered.instruction limit = numbered.instruction .unlimited := by
  have named := checkNumerals_eq_ok (forall_indices_iff.mpr within.2)
  rw [instruction_unlimited, NumberedOperation.instruction, named, ok_bind,
    Operation.write_of_within within.1]
  rfl

private theorem instruction_of_not_within {numbered : NumberedOperation} {bound : Nat}
    (overlong : ¬ numbered.Within (.atMost bound)) :
    numbered.instruction (.atMost bound) = .error (.numeralTooLong bound) := by
  rw [NumberedOperation.instruction]
  by_cases named : ∀ index ∈ numbered.register?, (DigitLimit.atMost bound).fits (index : Nat) = true
  · have unwritable := fun within => overlong ⟨within, named⟩
    rw [checkNumerals_eq_ok (forall_indices_iff.mpr named), ok_bind,
      Operation.write_of_not_within unwritable]
    rfl
  · rw [checkNumerals_of_overlong (mt forall_indices_iff.mp named)]
    rfl

/-- What is written at a place is the instruction of the operation and the place. -/
private theorem within_decodedAt_iff {numbered : NumberedOperation} {index : Nat} :
    (numbered.decodedAt index).Within limit ↔
      numbered.Within limit ∧ limit.fits index = true := by
  constructor
  · intro within
    exact ⟨⟨within.text, forall_register_iff.mp within.register⟩, within.label index rfl⟩
  · rintro ⟨⟨text, register⟩, placed⟩
    refine ⟨text, forall_register_iff.mpr register, fun other same => ?_⟩
    have labels : "l" ++ decimal (index : Int) = "l" ++ decimal (other : Int) :=
      Option.some.inj same
    have places : index = other :=
      decimal_natCast_inj.mp ((String.append_right_inj "l").mp labels)
    exact places ▸ placed

/-- By induction on the codes, for every place of the first. -/
private theorem instructionsFrom_atMost {bound index : Nat} {codes : List Nat} {program : Program}
    (decoded : instructionsFrom .unlimited index codes = .ok program) :
    ((∀ body ∈ program, body.Within (.atMost bound)) →
      instructionsFrom (.atMost bound) index codes = .ok program) ∧
    (¬ (∀ body ∈ program, body.Within (.atMost bound)) →
      instructionsFrom (.atMost bound) index codes = .error (.numeralTooLong bound)) := by
  induction codes generalizing index program with
  | nil =>
      cases decoded
      exact ⟨fun _ => rfl, fun overlong => absurd (by simp) overlong⟩
  | cons code later inductionHypothesis =>
      rw [instructionsFrom, instruction_unlimited, ok_bind, checkNumerals_unlimited,
        ok_bind] at decoded
      obtain ⟨rest, decodedLater, same⟩ := bind_eq_ok.mp decoded
      have shape : program = (NumberedOperation.ofCode code).decodedAt index :: rest :=
        (Except.ok.inj same).symm
      obtain ⟨ofWithin, ofOverlong⟩ := inductionHypothesis decodedLater
      rw [shape, List.forall_mem_cons, within_decodedAt_iff, instructionsFrom]
      by_cases within : (NumberedOperation.ofCode code).Within (.atMost bound)
      · rw [instruction_of_within within, instruction_unlimited, ok_bind]
        by_cases placed : (DigitLimit.atMost bound).fits index = true
        · have fitting : ∀ value ∈ [(index : Int)], (DigitLimit.atMost bound).fits value = true := by
            simpa using placed
          rw [checkNumerals_eq_ok fitting, ok_bind]
          refine ⟨fun all => ?_, fun overlong => ?_⟩
          · rw [ofWithin all.2]
            rfl
          · rw [ofOverlong fun all => overlong ⟨⟨within, placed⟩, all⟩]
            rfl
        · have overlong :
              ¬ ∀ value ∈ [(index : Int)], (DigitLimit.atMost bound).fits value = true := by
            simpa using placed
          rw [checkNumerals_of_overlong overlong]
          exact ⟨fun all => absurd all.1.2 placed, fun _ => rfl⟩
      · rw [instruction_of_not_within within]
        exact ⟨fun all => absurd all.1.1 within, fun _ => rfl⟩

/-- A number is decoded under a limit as without one, unless a number that is too long would
have to be written into an instruction. -/
theorem decode_atMost (bound number exponent : Nat) :
    ∃ program : Program, decode .unlimited number exponent = .ok program ∧
      ((∀ body ∈ program, body.Within (.atMost bound)) →
        decode (.atMost bound) number exponent = .ok program) ∧
      (¬ (∀ body ∈ program, body.Within (.atMost bound)) →
        decode (.atMost bound) number exponent =
          .error (.violation (.numeralTooLong bound))) := by
  have unlimited := decode_natCast number exponent
  refine ⟨_, unlimited, ?_⟩
  rw [decode, checkedDecodeList_natCast, ok_bind, mapError_eq_ok] at unlimited
  obtain ⟨ofWithin, ofOverlong⟩ := instructionsFrom_atMost unlimited
  rw [decode, checkedDecodeList_natCast, ok_bind]
  exact ⟨fun within => mapError_eq_ok.mpr (ofWithin within),
    fun overlong => congrArg (Except.mapError DecodeError.violation) (ofOverlong overlong)⟩

/-- A single instruction is decoded under a limit as without one, unless a number that is too
long would have to be written into it. -/
theorem decodeInstruction_atMost (bound number : Nat) :
    ∃ body : Instruction Int, decodeInstruction .unlimited number = .ok body ∧
      (body.Within (.atMost bound) → decodeInstruction (.atMost bound) number = .ok body) ∧
      (¬ body.Within (.atMost bound) →
        decodeInstruction (.atMost bound) number =
          .error (.violation (.numeralTooLong bound))) := by
  have natural : ¬ (number : Int) < 0 := Int.not_lt.mpr (Int.natCast_nonneg number)
  have decoded (limit : DigitLimit) : decodeInstruction limit number =
      ((NumberedOperation.ofCode number).instruction limit).mapError .violation := by
    rw [decodeInstruction, if_neg natural, Int.toNat_natCast]
  have unlimited : decodeInstruction .unlimited number =
      .ok { operation := (NumberedOperation.ofCode number).operation,
            text := (NumberedOperation.ofCode number).operation.text } := by
    rw [decoded, instruction_unlimited]
    rfl
  refine ⟨_, unlimited, ?_, ?_⟩
  · intro within
    rw [decoded, instruction_of_within ⟨within.text, forall_register_iff.mp within.register⟩,
      ← decoded, unlimited]
  · intro overlong
    have long : ¬ (NumberedOperation.ofCode number).Within (.atMost bound) := fun within =>
      overlong ⟨within.1, forall_register_iff.mpr within.2, by nofun⟩
    rw [decoded, instruction_of_not_within long]
    rfl

end CounterMachine
