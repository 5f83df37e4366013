import CounterMachine.Proofs.Linking.Resolution
import CounterMachine.Proofs.Machine.ControlFlow

/-!
Contract: programs that jump to labels only.

Owns: that a label stands for a place inside the program, and that a program whose jumps all go to
labels never leaves itself, provided that control does not run off its last instruction.

Does not own: offsets and indices, which may lead anywhere.
-/

set_option autoImplicit false

namespace CounterMachine

open Text

/-- Control passes from the operation to the instruction behind it. -/
def Operation.fallsThrough {Jump : Type} : Operation Jump → Bool
  | .init _ _ | .eval _ _ _ => true
  | .inc _ _ | .dec _ _ _ | .halt _ => false

/-- The operand is a word, which can only be a label. -/
def Target.isLabel : Target → Bool
  | .name text => !isNumeral text.toList
  | .number _ => false

/-- All jump operands of the tokens are labels. -/
def JumpToLabels (tokens : List (Token Target)) : Prop :=
  ∀ reference ∈ references tokens, reference.target.isLabel = true

def Token.instruction? {Jump : Type} : Token Jump → Option (Instruction Jump)
  | .instruction body => some body
  | .label _ _ _ | .trace _ _ => none

/-- The last instruction does not pass control on to the place behind it. -/
def EndInside (tokens : List (Token Target)) : Prop :=
  ∀ body ∈ (tokens.filterMap Token.instruction?).getLast?, body.operation.fallsThrough = false

instance (tokens : List (Token Target)) : Decidable (JumpToLabels tokens) :=
  inferInstanceAs (Decidable (∀ reference ∈ references tokens, reference.target.isLabel = true))

instance (tokens : List (Token Target)) : Decidable (EndInside tokens) :=
  inferInstanceAs (Decidable (∀ body ∈ (tokens.filterMap Token.instruction?).getLast?,
    body.operation.fallsThrough = false))

section Places

variable {tokens before after : List (Token Target)} {index : Nat}

/-- An instruction follows the last declaration of every label that is linked. -/
theorem Resolves.inside {target : Target} {place : Int}
    (resolves : Resolves tokens index target place) (isLabel : target.isLabel = true) :
    0 ≤ place ∧ place < instructionCount tokens := by
  cases resolves with
  | offset distance => cases isLabel
  | numeral spelled =>
      rw [Target.isLabel, spelled] at isLabel
      cases isLabel
  | label word declared followed =>
      have counted := declared.instructionCount_eq
      omega

private theorem filterMap_instruction?_eq_nil {others : List (Token Target)}
    (none : instructionCount others = 0) : others.filterMap Token.instruction? = [] := by
  rw [List.filterMap_eq_nil_iff]
  intro token member
  have noInstruction := List.countP_eq_zero.mp none token member
  cases token with
  | label name text line => rfl
  | trace text line => rfl
  | instruction body => exact absurd rfl noInstruction

/-- Behind an instruction that control falls through stands another one. -/
theorem EndInside.succ_lt (endInside : EndInside tokens) {body : Instruction Target}
    (split : tokens = before ++ .instruction body :: after)
    (fallsThrough : body.operation.fallsThrough = true) :
    instructionCount before + 1 < instructionCount tokens := by
  have followed : instructionCount after ≠ 0 := by
    intro none
    have last : body ∈ (tokens.filterMap Token.instruction?).getLast? := by
      have here : Token.instruction? (.instruction body) = some body := rfl
      rw [split, List.filterMap_append, List.filterMap_cons_some here,
        filterMap_instruction?_eq_nil none]
      exact List.getLast?_concat
    rw [endInside body last] at fallsThrough
    cases fallsThrough
  rw [split, instructionCount_append, instructionCount_instruction]
  omega

/-- By cases on the operation: a jump goes to a label, and what falls through is not the last. -/
private theorem targets_inside {operation : Operation Int} {body : Instruction Target}
    (labelled : ∀ target ∈ body.operation.operands, target.isLabel = true)
    (endInside : EndInside tokens) (split : tokens = before ++ .instruction body :: after)
    (maps : body.operation.MapsTo (Resolves tokens (instructionCount before)) operation) :
    ∀ target ∈ operation.jumpTargets (instructionCount before + 1 : Int),
      0 ≤ target ∧ target < instructionCount tokens := by
  have falls := endInside.succ_lt split
  generalize body.operation = written at labelled falls maps
  intro target member
  cases maps with
  | init register value =>
      rw [List.mem_singleton.mp member]
      have inside := falls rfl
      omega
  | inc register resolves =>
      rw [List.mem_singleton.mp member]
      exact resolves.inside (labelled _ List.mem_cons_self)
  | dec register positiveResolves zeroResolves =>
      rcases List.mem_cons.mp member with rfl | inRest
      · exact positiveResolves.inside (labelled _ List.mem_cons_self)
      · rw [List.mem_singleton.mp inRest]
        exact zeroResolves.inside (labelled _ (List.mem_cons_of_mem _ List.mem_cons_self))
  | halt reason => cases member
  | eval description register code =>
      rw [List.mem_singleton.mp member]
      have inside := falls rfl
      omega

end Places

/-- Where all jumps go to labels and control does not run off the end, nothing leads outside. -/
theorem IsLinked.confined {tokens : List (Token Target)} {program : Program}
    (isLinked : IsLinked tokens program) (labelled : JumpToLabels tokens)
    (endInside : EndInside tokens) : program.Confined := by
  intro place body _ found
  have inside : place < instructionCount tokens := by
    rw [← isLinked.length_eq]
    exact (List.getElem?_eq_some_iff.mp found).1
  obtain ⟨before, original, after, split, rfl⟩ := exists_instruction_at inside
  obtain ⟨operation, maps, placed⟩ := isLinked.placed before original after split
  obtain rfl := Option.some.inj (found.symm.trans placed)
  have own : ∀ target ∈ original.operation.operands, target.isLabel = true := by
    intro target member
    exact labelled _ (mem_references (by simp [split]) member)
  rw [isLinked.length_eq]
  exact targets_inside own endInside split maps

/-- Tokens that jump to labels only, and whose last instruction passes control on by a jump or not
at all, are linked to a program that never leaves itself: it halts, uses up its budget or fails in
an evaluation. -/
theorem run_linked_labels {tokens : List (Token Target)} {program : Program}
    (linked : link .unlimited tokens = .ok program) (nonempty : 0 < instructionCount tokens)
    (labelled : JumpToLabels tokens) (endInside : EndInside tokens) {arguments : List Int}
    (natural : ∀ value ∈ arguments, 0 ≤ value) {settings : Settings}
    (positive : 0 < settings.maxSteps) :
    let result := (program.run .unlimited settings arguments).result
    (∀ index line text target size, result ≠ .error (.outOfBounds index line text target size)) ∧
      ((∃ registers reason steps place, result = .ok ⟨registers, .halted reason, steps, place⟩) ∨
        (∃ registers steps place, result = .ok ⟨registers, .budgetExceeded, steps, place⟩) ∨
        ∃ place line text failure, result = .error (.evalFailed place line text failure)) := by
  intro result
  have isLinked := link_eq_ok_iff.mp linked
  have hasInstruction : program ≠ [] := by
    rw [← List.length_pos_iff, isLinked.length_eq]
    exact nonempty
  have cases := (isLinked.confined labelled endInside).run_cases hasInstruction natural positive
  refine ⟨?_, cases⟩
  intro index line text target size outside
  rcases cases with ⟨_, _, _, _, halted⟩ | ⟨_, _, _, exceeded⟩ | ⟨_, _, _, _, failed⟩
  · cases halted.symm.trans outside
  · cases exceeded.symm.trans outside
  · cases failed.symm.trans outside

/-- Moves the first register to the second. The first declaration of the last label is replaced by
the second. -/
def movingTokens : List (Token Target) :=
  [.label "done" "done:" 1, .label "loop" "loop:" 1,
    .instruction ⟨.dec "r0" (.name "move") (.name "done"), "r0- -> move, done", 1, false, none⟩,
    .label "move" "move:" 2,
    .instruction ⟨.inc "r1" (.name "loop"), "r1+ -> loop", 2, false, none⟩,
    .label "done" "done:" 3, .instruction ⟨.halt "Halt", "halt", 3, false, none⟩]

def moving : Program :=
  [⟨.dec "r0" 1 2, "r0- -> move, done", 1, false, some "loop"⟩,
    ⟨.inc "r1" 0, "r1+ -> loop", 2, false, some "move"⟩,
    ⟨.halt "Halt", "halt", 3, false, some "done"⟩]

/-- The budget is used up in the third round. -/
theorem run_linked_labels_moving :
    link .unlimited movingTokens = .ok moving ∧ 0 < instructionCount movingTokens ∧
      JumpToLabels movingTokens ∧ EndInside movingTokens ∧ (∀ value ∈ [(3 : Int)], 0 ≤ value) ∧
      (∀ index line text target size, (moving.run .unlimited ⟨5, false⟩ [3]).result ≠
        .error (.outOfBounds index line text target size)) ∧
      ∃ registers, (moving.run .unlimited ⟨5, false⟩ [3]).result =
        .ok ⟨registers, .budgetExceeded, 5, 1⟩ := by
  have linked : link .unlimited movingTokens = .ok moving := rfl
  have nonempty : 0 < instructionCount movingTokens := by decide
  have labelled : JumpToLabels movingTokens := by decide
  have endInside : EndInside movingTokens := by decide
  have natural : ∀ value ∈ [(3 : Int)], 0 ≤ value := by decide
  have positive : 0 < (⟨5, false⟩ : Settings).maxSteps := by decide
  obtain ⟨inside, -⟩ := run_linked_labels linked nonempty labelled endInside natural positive
  exact ⟨linked, nonempty, labelled, endInside, natural, inside, _, rfl⟩

end CounterMachine
