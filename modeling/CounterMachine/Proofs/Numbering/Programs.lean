import CounterMachine.Proofs.Numbering.ListCode
import CounterMachine.Proofs.Numbering.Operations
import Mathlib.Data.List.Forall2

/-!
Contract: every natural number is the number of the program it decodes to.

Owns: which number a program has, which program a number has, and the law from a number to
its program and back, with or without a start exponent.

Does not own: the refusals of programs without a number, and what becomes of a program that
is numbered and decoded.

## The list between a program and its number

Both directions pass through the list of numbered operations. A program and that list agree
place by place, the list and the number are in bijection, and the labels and texts of a
decoded program are added at the places of the list. So each law below is a law of the list.
-/

set_option autoImplicit false

namespace CounterMachine

open Text CounterMachine.Numbering

/-! ## Numbers of programs -/

/-- The instructions of a program have these numbered operations, place by place. -/
abbrev Program.NumberedAs (program : Program) (numbereds : List NumberedOperation) : Prop :=
  List.Forall₂ (fun body numbered => body.operation.NumberedAs numbered) program numbereds

private theorem encodeToken_eq_ok_iff {body : Instruction Int} {code : Nat} :
    encodeToken .unlimited (.instruction body) = .ok code ↔
      ∃ numbered, body.operation.NumberedAs numbered ∧ numbered.code = code := by
  constructor
  · intro accepted
    obtain ⟨numbered, read, same⟩ := bind_eq_ok.mp accepted
    exact ⟨numbered, Instruction.numbered_eq_ok_iff.mp read, Except.ok.inj same⟩
  · rintro ⟨numbered, agrees, rfl⟩
    exact bind_eq_ok.mpr ⟨numbered, Instruction.numbered_eq_ok_iff.mpr agrees, rfl⟩

private theorem encodeTokens_eq_ok_iff {program : Program} {codes : List Nat} :
    encodeTokens .unlimited program.tokens = .ok codes ↔
      ∃ numbereds, program.NumberedAs numbereds ∧
        numbereds.map NumberedOperation.code = codes := by
  induction program generalizing codes with
  | nil =>
      constructor
      · intro accepted
        exact ⟨[], .nil, Except.ok.inj accepted⟩
      · rintro ⟨numbereds, agrees, rfl⟩
        cases agrees
        rfl
  | cons body later inductionHypothesis =>
      constructor
      · intro accepted
        obtain ⟨code, head, accepted⟩ := bind_eq_ok.mp accepted
        obtain ⟨rest, tail, same⟩ := bind_eq_ok.mp accepted
        obtain ⟨numbered, agrees, rfl⟩ := encodeToken_eq_ok_iff.mp head
        obtain ⟨numbereds, agreesLater, rfl⟩ := inductionHypothesis.mp tail
        exact ⟨numbered :: numbereds, .cons agrees agreesLater, Except.ok.inj same⟩
      · rintro ⟨numbereds, agrees, rfl⟩
        cases agrees with
        | cons head tail =>
            exact bind_eq_ok.mpr ⟨_, encodeToken_eq_ok_iff.mpr ⟨_, head, rfl⟩,
              bind_eq_ok.mpr ⟨_, inductionHypothesis.mpr ⟨_, tail, rfl⟩, rfl⟩⟩

theorem Program.encode_eq_ok_iff {program : Program} {number : Nat} :
    program.encode .unlimited = .ok number ↔
      ∃ numbereds, program.NumberedAs numbereds ∧
        encodeList (numbereds.map NumberedOperation.code) = number := by
  constructor
  · intro accepted
    obtain ⟨codes, read, same⟩ := bind_eq_ok.mp accepted
    obtain ⟨numbereds, agrees, rfl⟩ := encodeTokens_eq_ok_iff.mp read
    exact ⟨numbereds, agrees, Except.ok.inj same⟩
  · rintro ⟨numbereds, agrees, rfl⟩
    exact bind_eq_ok.mpr ⟨_, encodeTokens_eq_ok_iff.mpr ⟨numbereds, agrees, rfl⟩, rfl⟩

/-- Equal numbers stand for equal lists of numbered operations. -/
theorem encodeList_map_code_inj {left right : List NumberedOperation} :
    encodeList (left.map NumberedOperation.code) =
      encodeList (right.map NumberedOperation.code) ↔ left = right := by
  rw [encodeList_inj]
  exact List.map_inj_right fun _ _ => NumberedOperation.code_inj.mp

/-! ## Programs of numbers -/

/-- The instruction that an operation decodes to at a place. -/
def NumberedOperation.decodedAt (index : Nat) (numbered : NumberedOperation) :
    Instruction Int where
  operation := numbered.operation
  text := numbered.operation.text
  label := some ("l" ++ decimal index)

private theorem instructionsFrom_unlimited (index : Nat) (codes : List Nat) :
    instructionsFrom .unlimited index codes =
      .ok ((codes.map NumberedOperation.ofCode).mapIdx
        fun place numbered => numbered.decodedAt (index + place)) := by
  induction codes generalizing index with
  | nil => rfl
  | cons code later inductionHypothesis =>
      have shift : (fun place (numbered : NumberedOperation) =>
          numbered.decodedAt (index + (place + 1))) =
          fun place numbered => numbered.decodedAt (index + 1 + place) := by
        funext place numbered
        rw [Nat.add_assoc, Nat.add_comm 1]
      rw [List.map_cons, List.mapIdx_cons, shift, instructionsFrom, inductionHypothesis]
      rfl

/-- The operations that a number decodes to. -/
def numberedsOf (number : Nat) : List NumberedOperation :=
  (decodeList number).map NumberedOperation.ofCode

@[simp]
theorem encodeList_map_code_numberedsOf (number : Nat) :
    encodeList ((numberedsOf number).map NumberedOperation.code) = number := by
  have inverse : NumberedOperation.code ∘ NumberedOperation.ofCode = id :=
    funext NumberedOperation.code_ofCode
  rw [numberedsOf, List.map_map, inverse, List.map_id, encodeList_decodeList]

/-- Without a limit on digits every natural number and start exponent has a program. -/
theorem decode_natCast (number exponent : Nat) :
    decode .unlimited number exponent =
      .ok ((numberedsOf (number * 2 ^ exponent)).mapIdx fun index numbered =>
        numbered.decodedAt index) := by
  have places : (fun place (numbered : NumberedOperation) =>
      numbered.decodedAt (0 + place)) = fun index numbered => numbered.decodedAt index := by
    funext place numbered
    rw [Nat.zero_add]
  rw [decode, checkedDecodeList_natCast, ok_bind, instructionsFrom_unlimited, places]
  rfl

theorem decode_natCast_zero (number : Nat) :
    decode .unlimited number 0 =
      .ok ((numberedsOf number).mapIdx fun index numbered => numbered.decodedAt index) := by
  have shifted := decode_natCast number 0
  rw [Nat.pow_zero, Nat.mul_one] at shifted
  exact shifted

/-- A decoded program numbers the operations it was made of. -/
theorem numberedAs_mapIdx (numbereds : List NumberedOperation)
    (instructionAt : Nat → NumberedOperation → Instruction Int)
    (kept : ∀ index numbered, (instructionAt index numbered).operation = numbered.operation) :
    Program.NumberedAs (numbereds.mapIdx instructionAt) numbereds := by
  induction numbereds generalizing instructionAt with
  | nil => exact .nil
  | cons numbered later inductionHypothesis =>
      rw [List.mapIdx_cons]
      refine .cons ?_ (inductionHypothesis _ fun index => kept (index + 1))
      rw [kept]
      exact numbered.operation_numberedAs

/-- Every natural number, times any power of two that it was divided by, is the number of
the program it decodes to. That program is built from halts, increments and decrements of
registers in their canonical spelling, with natural operands. -/
theorem encode_decode_mul_two_pow (number exponent : Nat) :
    ∃ program : Program,
      decode .unlimited number exponent = .ok program ∧
      program.encode .unlimited = .ok (number * 2 ^ exponent) ∧
      decode .unlimited (number * 2 ^ exponent : Nat) 0 = .ok program ∧
      ∀ body ∈ program,
        body.operation = .halt "Halt" ∨
        (∃ register next : Nat,
          body.operation = .inc (numberedRegister register) next) ∨
        ∃ register onPositive onZero : Nat,
          body.operation = .dec (numberedRegister register) onPositive onZero := by
  refine ⟨_, decode_natCast number exponent, ?_, ?_, ?_⟩
  · rw [Program.encode_eq_ok_iff]
    exact ⟨_, numberedAs_mapIdx _ _ fun _ _ => rfl, encodeList_map_code_numberedsOf _⟩
  · have whole := decode_natCast (number * 2 ^ exponent) 0
    rw [Nat.pow_zero, Nat.mul_one] at whole
    exact whole
  · intro body member
    obtain ⟨index, inside, rfl⟩ := List.mem_mapIdx.mp member
    cases decoded : (numberedsOf (number * 2 ^ exponent))[index] with
    | halt => exact .inl rfl
    | inc register next => exact .inr (.inl ⟨register, next, rfl⟩)
    | dec register onPositive onZero =>
        exact .inr (.inr ⟨register, onPositive, onZero, rfl⟩)

end CounterMachine
