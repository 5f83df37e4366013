import CounterMachine.Linking
import CounterMachine.Proofs.Sequencing

/-!
Contract: what a linked program keeps of its tokens.

Owns: operations that differ in their jump operands only; how replacing the operands of one
fails; linking as a relation between instructions and the program they are linked to, also place
by place; and that every instruction attached to labels and trace flags comes from a token.

Does not own: which indices labels stand for.
-/

set_option autoImplicit false

namespace CounterMachine

namespace Operation

variable {Jump Other : Type}

/-- The jump operands as they are written, the positive branch of a decrement first. -/
def operands : Operation Jump → List Jump
  | .inc _ next => [next]
  | .dec _ onPositive onZero => [onPositive, onZero]
  | .init _ _ | .halt _ | .eval _ _ _ => []

/-- The same operation with related jump operands. -/
inductive MapsTo (related : Jump → Other → Prop) : Operation Jump → Operation Other → Prop where
  | init (register : String) (value : Int) :
      MapsTo related (.init register value) (.init register value)
  | inc (register : String) {next : Jump} {other : Other} (nextRelated : related next other) :
      MapsTo related (.inc register next) (.inc register other)
  | dec (register : String) {onPositive onZero : Jump} {otherPositive otherZero : Other}
      (positiveRelated : related onPositive otherPositive)
      (zeroRelated : related onZero otherZero) :
      MapsTo related (.dec register onPositive onZero) (.dec register otherPositive otherZero)
  | halt (reason : String) : MapsTo related (.halt reason) (.halt reason)
  | eval (description register code : String) :
      MapsTo related (.eval description register code) (.eval description register code)

theorem mapOperands_eq_ok_iff {Failure : Type} {resolve : Jump → Except Failure Other}
    {operation : Operation Jump} {result : Operation Other} :
    operation.mapOperands resolve = .ok result ↔
      operation.MapsTo (fun jump other => resolve jump = .ok other) result := by
  constructor
  · intro mapped
    cases operation with
    | init register value =>
        rw [← Except.ok.inj mapped]
        exact .init register value
    | inc register next =>
        obtain ⟨other, resolved, returned⟩ := bind_eq_ok.mp mapped
        rw [← Except.ok.inj returned]
        exact .inc register resolved
    | dec register onPositive onZero =>
        obtain ⟨otherPositive, positiveResolved, second⟩ := bind_eq_ok.mp mapped
        obtain ⟨otherZero, zeroResolved, returned⟩ := bind_eq_ok.mp second
        rw [← Except.ok.inj returned]
        exact .dec register positiveResolved zeroResolved
    | halt reason =>
        rw [← Except.ok.inj mapped]
        exact .halt reason
    | eval description register code =>
        rw [← Except.ok.inj mapped]
        exact .eval description register code
  · intro related
    cases related with
    | init register value => rfl
    | inc register resolved => exact bind_eq_ok.mpr ⟨_, resolved, rfl⟩
    | dec register positiveResolved zeroResolved =>
        exact bind_eq_ok.mpr ⟨_, positiveResolved, bind_eq_ok.mpr ⟨_, zeroResolved, rfl⟩⟩
    | halt reason => rfl
    | eval description register code => rfl

theorem MapsTo.imp {weaker stronger : Jump → Other → Prop}
    (implies : ∀ jump other, stronger jump other → weaker jump other)
    {operation : Operation Jump} {result : Operation Other}
    (maps : operation.MapsTo stronger result) : operation.MapsTo weaker result := by
  cases maps with
  | init register value => exact .init register value
  | inc register nextRelated => exact .inc register (implies _ _ nextRelated)
  | dec register positiveRelated zeroRelated =>
      exact .dec register (implies _ _ positiveRelated) (implies _ _ zeroRelated)
  | halt reason => exact .halt reason
  | eval description register code => exact .eval description register code

/-- Replacing the operands fails as the first of them that fails. -/
theorem failure?_mapOperands {Failure : Type} (resolve : Jump → Except Failure Other)
    (operation : Operation Jump) :
    failure? (operation.mapOperands resolve) =
      operation.operands.findSome? (fun jump => failure? (resolve jump)) := by
  cases operation with
  | init register value => rfl
  | inc register next =>
      cases resolved : resolve next <;> simp [mapOperands, operands, resolved]
  | dec register onPositive onZero =>
      cases positive : resolve onPositive with
      | error failure => simp [mapOperands, operands, positive]
      | ok target =>
          cases zero : resolve onZero <;> simp [mapOperands, operands, positive, zero]
  | halt reason => rfl
  | eval description register code => rfl

end Operation

/-! ## Linking -/

/-- Linking of the instructions from an index on, with the operands of each resolved there. -/
inductive LinkedFrom (limit : Text.DigitLimit) (labels : Table Nat) (size : Nat) :
    Nat → List (Instruction Target) → Program → Prop where
  | nil (index : Nat) : LinkedFrom limit labels size index [] []
  | cons {index : Nat} {body : Instruction Target} {later : List (Instruction Target)}
      {operation : Operation Int} {rest : Program}
      (resolved : body.operation.MapsTo
        (fun target place =>
          resolveTarget limit labels size index body.line target = .ok place) operation)
      (linked : LinkedFrom limit labels size (index + 1) later rest) :
      LinkedFrom limit labels size index (body :: later)
        (⟨operation, body.text, body.line, body.trace, body.label⟩ :: rest)

theorem linkFrom_eq_ok_iff {limit : Text.DigitLimit} {labels : Table Nat} {size index : Nat}
    {instructions : List (Instruction Target)} {program : Program} :
    linkFrom limit labels size index instructions = .ok program ↔
      LinkedFrom limit labels size index instructions program := by
  constructor
  · intro linked
    induction instructions generalizing index program with
    | nil =>
        rw [← Except.ok.inj linked]
        exact .nil index
    | cons body later inductionHypothesis =>
        rw [linkFrom] at linked
        obtain ⟨operation, mapped, second⟩ := bind_eq_ok.mp linked
        obtain ⟨rest, linkedRest, returned⟩ := bind_eq_ok.mp second
        rw [← Except.ok.inj returned]
        exact .cons (Operation.mapOperands_eq_ok_iff.mp mapped) (inductionHypothesis linkedRest)
  · intro related
    induction related with
    | nil index => rfl
    | cons resolved linked inductionHypothesis =>
        have mapped := Operation.mapOperands_eq_ok_iff.mpr resolved
        rw [linkFrom, mapped, ok_bind, inductionHypothesis]
        rfl

/-- Linking relates instructions place by place. -/
theorem linkedFrom_iff {limit : Text.DigitLimit} {labels : Table Nat} {size index : Nat}
    {instructions : List (Instruction Target)} {program : Program} :
    LinkedFrom limit labels size index instructions program ↔
      program.length = instructions.length ∧
        ∀ (place : Nat) (body : Instruction Target), instructions[place]? = some body →
          ∃ operation,
            body.operation.MapsTo (fun target jump =>
              resolveTarget limit labels size (index + place) body.line target = .ok jump)
              operation ∧
            program[place]? = some ⟨operation, body.text, body.line, body.trace, body.label⟩ := by
  constructor
  · intro related
    induction related with
    | nil index =>
        refine ⟨rfl, fun place body found => ?_⟩
        cases found
    | @cons index body later operation rest resolved linked inductionHypothesis =>
        obtain ⟨sameLength, pointwise⟩ := inductionHypothesis
        refine ⟨congrArg (· + 1) sameLength, fun place other found => ?_⟩
        cases place with
        | zero =>
            rw [← Option.some.inj found]
            exact ⟨operation, resolved, rfl⟩
        | succ place =>
            have places : index + (place + 1) = index + 1 + place := by omega
            rw [places]
            exact pointwise place other found
  · rintro ⟨sameLength, pointwise⟩
    induction instructions generalizing index program with
    | nil =>
        rw [List.eq_nil_of_length_eq_zero sameLength]
        exact .nil index
    | cons body later inductionHypothesis =>
        obtain ⟨operation, resolved, found⟩ := pointwise 0 body rfl
        cases program with
        | nil => cases found
        | cons linked rest =>
            rw [show linked = ⟨operation, body.text, body.line, body.trace, body.label⟩ from
              Option.some.inj found]
            refine .cons resolved (inductionHypothesis (Nat.succ.inj sameLength) ?_)
            intro place other inLater
            have places : index + 1 + place = index + (place + 1) := by omega
            rw [places]
            exact pointwise (place + 1) other inLater

/-- Each linked instruction comes from one on its line, whose jump operands were resolved at some
place. -/
theorem LinkedFrom.exists_of_mem {limit : Text.DigitLimit} {labels : Table Nat} {size index : Nat}
    {instructions : List (Instruction Target)} {program : Program}
    (related : LinkedFrom limit labels size index instructions program)
    {linked : Instruction Int} (member : linked ∈ program) :
    ∃ body ∈ instructions, linked.line = body.line ∧ ∃ place, body.operation.MapsTo
      (fun target other => resolveTarget limit labels size place body.line target = .ok other)
      linked.operation := by
  induction related with
  | nil index => cases member
  | cons resolved laterLinked inductionHypothesis =>
      rcases List.mem_cons.mp member with rfl | inRest
      · exact ⟨_, List.mem_cons_self, rfl, _, resolved⟩
      · obtain ⟨body, inLater, found⟩ := inductionHypothesis inRest
        exact ⟨body, List.mem_cons_of_mem _ inLater, found⟩

/-- Each attached instruction is that of a token, with a label and a trace flag. -/
theorem exists_of_mem_attach {label : Option String} {traced : Bool}
    {tokens : List (Token Target)} {body : Instruction Target}
    (member : body ∈ attach label traced tokens) :
    ∃ original, .instruction original ∈ tokens ∧ body.operation = original.operation ∧
      body.line = original.line := by
  induction tokens generalizing label traced with
  | nil => cases member
  | cons token later inductionHypothesis =>
      cases token with
      | label name text line =>
          obtain ⟨original, inLater, same⟩ := inductionHypothesis member
          exact ⟨original, List.mem_cons_of_mem _ inLater, same⟩
      | trace text line =>
          obtain ⟨original, inLater, same⟩ := inductionHypothesis member
          exact ⟨original, List.mem_cons_of_mem _ inLater, same⟩
      | instruction original =>
          rcases List.mem_cons.mp member with rfl | inRest
          · exact ⟨original, List.mem_cons_self, rfl, rfl⟩
          · obtain ⟨other, inLater, same⟩ := inductionHypothesis inRest
            exact ⟨other, List.mem_cons_of_mem _ inLater, same⟩

/-- A compiled program consists of operations that tokens of its text stand for, on their
lines. -/
theorem exists_token_of_mem_compile {limit : Text.DigitLimit} {source file : String}
    {program : Program} (compiled : compile limit source file = .ok program)
    {linked : Instruction Int} (member : linked ∈ program) :
    ∃ tokens original, parse limit source file = .ok tokens ∧ .instruction original ∈ tokens ∧
      linked.line = original.line ∧ ∃ labels size place line, original.operation.MapsTo
        (fun target other => resolveTarget limit labels size place line target = .ok other)
        linked.operation := by
  obtain ⟨tokens, parsed, linkedTokens⟩ := bind_eq_ok.mp compiled
  rw [mapError_eq_ok] at parsed linkedTokens
  have related := linkFrom_eq_ok_iff.mp linkedTokens
  obtain ⟨body, attached, line, place, maps⟩ := related.exists_of_mem member
  obtain ⟨original, inTokens, same, sameLine⟩ := exists_of_mem_attach attached
  rw [same] at maps
  exact ⟨tokens, original, parsed, inTokens, line.trans sameLine, _, _, place, _, maps⟩

end CounterMachine
