import CounterMachine.Linking
import CounterMachine.Proofs.Agreement
import CounterMachine.Proofs.Numbering.Programs

/-!
Contract: a number determines its program up to the spelling of registers.

Owns: the canonical spelling of a register, the program that comes back from a number, when
two programs have one number, and when a program comes back as it was.

Does not own: the refusals of programs without a number.

A register counts by its index, which its name may spell with leading zeros or with digits
of another script. The number keeps the index only, so a program comes back in the spelling
of written numbers, and comes back the same exactly when it was in that spelling before.
-/

set_option autoImplicit false

namespace CounterMachine

open Text CounterMachine.Numbering

/-- The spelling of a register that its index is written in; a register without an index
stays as it is. -/
def respelled (register : String) : String :=
  match registerIndex .unlimited register with
  | .ok index => numberedRegister index
  | .error _ => register

/-- The operation with registers in their canonical spelling. A halt forgets its reason. -/
def Operation.respelled : Operation Int → Operation Int
  | .inc register next => .inc (CounterMachine.respelled register) next
  | .dec register onPositive onZero =>
      .dec (CounterMachine.respelled register) onPositive onZero
  | .halt _ => .halt "Halt"
  | operation => operation

/-- The instruction at a place of a program, after numbering and decoding: respelled, with
its canonical text, labelled by its place, untraced and on no known line. -/
def Instruction.recodedAt (index : Nat) (body : Instruction Int) : Instruction Int where
  operation := body.operation.respelled
  text := body.operation.respelled.text
  line := 0
  trace := false
  label := some ("l" ++ decimal index)

/-- Two operations act the same on registers of the same index. -/
inductive Operation.SameUpToSpelling : Operation Int → Operation Int → Prop where
  | halt (left right : String) : SameUpToSpelling (.halt left) (.halt right)
  | inc {left right : String} (next : Int)
      (same : registerIndex .unlimited left = registerIndex .unlimited right) :
      SameUpToSpelling (.inc left next) (.inc right next)
  | dec {left right : String} (onPositive onZero : Int)
      (same : registerIndex .unlimited left = registerIndex .unlimited right) :
      SameUpToSpelling (.dec left onPositive onZero) (.dec right onPositive onZero)

private theorem respelled_of_index {register : String} {index : Nat}
    (named : registerIndex .unlimited register = .ok index) :
    respelled register = numberedRegister index := by
  rw [respelled, named]

/-- The canonical spelling is kept, and no other spelling is. -/
private theorem respelled_eq_self_iff {register : String} {index : Nat}
    (named : registerIndex .unlimited register = .ok index) :
    respelled register = register ↔ ∃ place, register = numberedRegister place := by
  rw [respelled_of_index named]
  constructor
  · intro same
    exact ⟨index, same.symm⟩
  · rintro ⟨place, rfl⟩
    rw [registerIndex_numberedRegister] at named
    rw [Except.ok.inj named]

private theorem operation_eq_respelled {operation : Operation Int}
    {numbered : NumberedOperation} (agrees : operation.NumberedAs numbered) :
    numbered.operation = operation.respelled := by
  cases agrees with
  | halt reason => rfl
  | inc next named => rw [Operation.respelled, respelled_of_index named]; rfl
  | dec onPositive onZero named => rw [Operation.respelled, respelled_of_index named]; rfl

private theorem numbered_eq_iff {left right : Operation Int}
    {leftNumbered rightNumbered : NumberedOperation} (leftAgrees : left.NumberedAs leftNumbered)
    (rightAgrees : right.NumberedAs rightNumbered) :
    leftNumbered = rightNumbered ↔ left.SameUpToSpelling right := by
  constructor
  · rintro rfl
    cases leftAgrees with
    | halt reason =>
        cases rightAgrees with
        | halt other => exact .halt reason other
    | inc next named =>
        cases rightAgrees with
        | inc _ other => exact .inc next (named.trans other.symm)
    | dec onPositive onZero named =>
        cases rightAgrees with
        | dec _ _ other => exact .dec onPositive onZero (named.trans other.symm)
  · intro same
    cases leftAgrees with
    | halt reason =>
        cases same
        cases rightAgrees
        rfl
    | inc next named =>
        cases same with
        | inc _ spelling =>
            cases rightAgrees with
            | inc _ other =>
                rw [named, other] at spelling
                rw [Except.ok.inj spelling]
    | dec onPositive onZero named =>
        cases same with
        | dec _ _ spelling =>
            cases rightAgrees with
            | dec _ _ other =>
                rw [named, other] at spelling
                rw [Except.ok.inj spelling]

/-- Equal numbered operations, place by place, are equal up to spelling. -/
private theorem numbereds_eq_iff {left right : Program}
    {leftNumbereds rightNumbereds : List NumberedOperation}
    (leftAgrees : left.NumberedAs leftNumbereds) (rightAgrees : right.NumberedAs rightNumbereds) :
    leftNumbereds = rightNumbereds ↔
      List.Forall₂ (fun first second => first.operation.SameUpToSpelling second.operation)
        left right := by
  induction leftAgrees generalizing right rightNumbereds with
  | nil =>
      cases rightAgrees with
      | nil => exact ⟨fun _ => .nil, fun _ => rfl⟩
      | cons _ _ =>
          constructor
          · intro impossible
            cases impossible
          · intro impossible
            cases impossible
  | cons leftHead leftTail inductionHypothesis =>
      cases rightAgrees with
      | nil =>
          constructor
          · intro impossible
            cases impossible
          · intro impossible
            cases impossible
      | cons rightHead rightTail =>
          rw [List.cons.injEq, List.forall₂_cons, numbered_eq_iff leftHead rightHead,
            inductionHypothesis rightTail]

private theorem mapIdx_decodedAt {program : Program} {numbereds : List NumberedOperation}
    (agrees : program.NumberedAs numbereds)
    (decodedAt : Nat → NumberedOperation → Instruction Int)
    (recodedAt : Nat → Instruction Int → Instruction Int)
    (same : ∀ index body numbered, Operation.NumberedAs body.operation numbered →
      decodedAt index numbered = recodedAt index body) :
    numbereds.mapIdx decodedAt = program.mapIdx recodedAt := by
  induction agrees generalizing decodedAt recodedAt with
  | nil => rfl
  | cons head tail inductionHypothesis =>
      rw [List.mapIdx_cons, List.mapIdx_cons, same 0 _ _ head,
        inductionHypothesis _ _ fun index => same (index + 1)]

/-- A numbered program comes back respelled, with its places as labels. -/
theorem decode_encode {program : Program} {number : Nat}
    (accepted : program.encode .unlimited = .ok number) :
    decode .unlimited number 0 =
      .ok (program.mapIdx fun index body => body.recodedAt index) := by
  obtain ⟨numbereds, agrees, rfl⟩ := Program.encode_eq_ok_iff.mp accepted
  have same : numberedsOf (encodeList (numbereds.map NumberedOperation.code)) = numbereds := by
    rw [← encodeList_map_code_inj, encodeList_map_code_numberedsOf]
  rw [decode_natCast_zero, same,
    ← mapIdx_decodedAt agrees (fun index numbered => numbered.decodedAt index)
      (fun index body => body.recodedAt index) ?_]
  · intro index body numbered head
    rw [NumberedOperation.decodedAt, operation_eq_respelled head, Instruction.recodedAt]

/-! ## One number, one program -/

/-- Two programs have one number exactly when they are of one length and act the same, place
by place, on registers of the same index; and a program comes back from its number with its
registers in their canonical spelling, labelled by place and untraced. -/
theorem encode_determines_program {left right : Program} {leftNumber rightNumber : Nat}
    (leftAccepted : left.encode .unlimited = .ok leftNumber)
    (rightAccepted : right.encode .unlimited = .ok rightNumber) :
    (leftNumber = rightNumber ↔
      left.length = right.length ∧
        ∀ (index : Nat) (inLeft : index < left.length) (inRight : index < right.length),
          left[index].operation.SameUpToSpelling right[index].operation) ∧
      decode .unlimited leftNumber 0 =
        .ok (left.mapIdx fun index body => body.recodedAt index) := by
  refine ⟨?_, decode_encode leftAccepted⟩
  obtain ⟨leftNumbereds, leftAgrees, rfl⟩ := Program.encode_eq_ok_iff.mp leftAccepted
  obtain ⟨rightNumbereds, rightAgrees, rfl⟩ := Program.encode_eq_ok_iff.mp rightAccepted
  rw [encodeList_map_code_inj, numbereds_eq_iff leftAgrees rightAgrees]
  exact List.forall₂_iff_get

/-- Neither a leading zero nor the reason of a halt shows in the number. -/
theorem encode_leadingZero :
    Program.encode .unlimited
        [⟨.inc "r00" 1, "R00+", 1, true, none⟩, ⟨.halt "done", "", 2, false, none⟩] = .ok 24 ∧
      Program.encode .unlimited
        [⟨.inc "r0" 1, "", 0, false, none⟩, ⟨.halt "Halt", "", 0, false, none⟩] = .ok 24 ∧
      Operation.SameUpToSpelling (.inc "r00" 1) (.inc "r0" 1) ∧
      decode .unlimited (24 : Nat) 0 =
        .ok [⟨.inc "r0" 1, "r0+ -> 1", 0, false, some "l0"⟩,
          ⟨.halt "Halt", "halt \"Halt\"", 0, false, some "l1"⟩] := by
  have long : Program.encode .unlimited
      [⟨.inc "r00" 1, "R00+", 1, true, none⟩, ⟨.halt "done", "", 2, false, none⟩] = .ok 24 := rfl
  have short : Program.encode .unlimited
      [⟨.inc "r0" 1, "", 0, false, none⟩, ⟨.halt "Halt", "", 0, false, none⟩] = .ok 24 := rfl
  obtain ⟨number, decoded⟩ := encode_determines_program long short
  exact ⟨long, short, (number.mp rfl).2 0 (by decide) (by decide), decoded⟩

/-! ## Programs that come back -/

/-- Every counted register is spelled as its index is written. -/
def Operation.SpelledCanonically : Operation Int → Prop
  | .inc register _ | .dec register _ _ => ∃ index, register = numberedRegister index
  | .init _ _ | .halt _ | .eval _ _ _ => True

private theorem respelled_action_iff {operation : Operation Int} {numbered : NumberedOperation}
    (agrees : operation.NumberedAs numbered) :
    operation.respelled.action = operation.action ↔ operation.SpelledCanonically := by
  cases agrees with
  | halt reason => exact ⟨fun _ => trivial, fun _ => rfl⟩
  | inc next named =>
      rw [Operation.SpelledCanonically, ← respelled_eq_self_iff named]
      show Operation.inc _ _ = Operation.inc _ _ ↔ _
      rw [Operation.inc.injEq, and_iff_left rfl]
  | dec onPositive onZero named =>
      rw [Operation.SpelledCanonically, ← respelled_eq_self_iff named]
      show Operation.dec _ _ _ = Operation.dec _ _ _ ↔ _
      rw [Operation.dec.injEq, and_iff_left ⟨rfl, rfl⟩]

/-- A program comes back from its number as it was exactly when every register is in its
canonical spelling. -/
theorem decode_encode_agrees_iff {program : Program} {number : Nat}
    (accepted : program.encode .unlimited = .ok number) :
    ∃ decoded : Program,
      decode .unlimited number 0 = .ok decoded ∧
        (decoded.agrees program = true ↔
          ∀ body ∈ program, body.operation.SpelledCanonically) := by
  refine ⟨_, decode_encode accepted, ?_⟩
  obtain ⟨numbereds, agrees, -⟩ := Program.encode_eq_ok_iff.mp accepted
  obtain ⟨length, numbered⟩ := List.forall₂_iff_get.mp agrees
  rw [Program.agrees_mapIdx_iff]
  constructor
  · intro same body member
    obtain ⟨index, inside, rfl⟩ := List.getElem_of_mem member
    exact (respelled_action_iff (numbered index inside (length ▸ inside))).mp (same index inside)
  · intro canonical index inside
    have spelled := canonical _ (List.getElem_mem inside)
    exact (respelled_action_iff (numbered index inside (length ▸ inside))).mpr spelled

/-- A program in canonical spelling comes back. -/
theorem decode_encode_agrees_canonical :
    Program.encode .unlimited [⟨.dec "r1" 0 1, "R1- -> 0, stop", 1, true, none⟩] =
        .ok (2 ^ 40) ∧
      (∃ index, "r1" = numberedRegister index) ∧
      ∃ decoded : Program,
        decode .unlimited (2 ^ 40 : Nat) 0 = .ok decoded ∧
          decoded.agrees [⟨.dec "r1" 0 1, "R1- -> 0, stop", 1, true, none⟩] = true := by
  have accepted : Program.encode .unlimited
      [⟨.dec "r1" 0 1, "R1- -> 0, stop", 1, true, none⟩] = .ok (2 ^ 40) := by decide
  have canonical : ∃ index, "r1" = numberedRegister index := ⟨1, rfl⟩
  obtain ⟨decoded, read, same⟩ := decode_encode_agrees_iff accepted
  refine ⟨accepted, canonical, decoded, read, same.mpr ?_⟩
  intro body member
  rw [List.mem_singleton.mp member]
  exact canonical

/-- A leading zero is lost, so the program that comes back acts on another register. -/
theorem decode_encode_leadingZero :
    ∃ program decoded : Program,
      compile .unlimited "r00+ -> 0" = .ok program ∧
        program.encode .unlimited = .ok 2 ∧
        decode .unlimited 2 0 = .ok decoded ∧
        decoded.agrees program = false :=
  ⟨[⟨.inc "r00" 0, "r00+ -> 0", 1, false, none⟩],
    [⟨.inc "r0" 0, "r0+ -> 0", 0, false, some "l0"⟩], rfl, rfl, rfl, rfl⟩

end CounterMachine
