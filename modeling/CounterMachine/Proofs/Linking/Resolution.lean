import CounterMachine.Proofs.Linking
import CounterMachine.Proofs.Linking.Positions
import CounterMachine.Proofs.Text.Decimal

/-!
Contract: linking is correct on every sequence of tokens.

Owns: what a jump operand stands for among its tokens, and when it stands for nothing; the
operands of a sequence in program order; the program that a sequence is linked to; and that
linking finds that program, or else blames the first operand that stands for nothing and reports
it with its line and the code for its fault.

Does not own: linking under a limit on numerals, and whether an index lies inside the program.
-/

set_option autoImplicit false

namespace CounterMachine

open Text

/-! ## What operands stand for -/

/-- The index that an operand of the instruction at an index stands for. -/
inductive Resolves (tokens : List (Token Target)) (index : Nat) : Target → Int → Prop where
  | offset (distance : Int) : Resolves tokens index (.number distance) (index + distance)
  | numeral {digits : String} (spelled : isNumeral digits.toList = true) :
      Resolves tokens index (.name digits)
        (Nat.ofDigits 10 (digits.toList.filterMap digitValue?).reverse : Nat)
  | label {name : String} {before after : List (Token Target)}
      (word : isNumeral name.toList = false)
      (declared : LastDeclared tokens name before after)
      (followed : 0 < instructionCount after) :
      Resolves tokens index (.name name) (instructionCount before)

/-- An operand stands for nothing when it is a word that is never declared, or one whose last
declaration no instruction follows. -/
inductive Unresolvable (tokens : List (Token Target)) : Target → LinkError.Cause → Prop where
  | undefined {name : String} (word : isNumeral name.toList = false)
      (undeclared : Undeclared tokens name) : Unresolvable tokens (.name name) .undefined
  | dangling {name : String} {before after : List (Token Target)}
      (word : isNumeral name.toList = false)
      (declared : LastDeclared tokens name before after)
      (trailing : instructionCount after = 0) : Unresolvable tokens (.name name) .dangling

section Operands

variable {tokens : List (Token Target)} {index : Nat} {line : Int}

private theorem resolveTarget_numeral {digits : String}
    (spelled : isNumeral digits.toList = true) :
    resolveTarget .unlimited (labelTable tokens) (instructionCount tokens) index line
      (.name digits) =
        .ok (Nat.ofDigits 10 (digits.toList.filterMap digitValue?).reverse : Nat) := by
  rw [resolveTarget, if_pos spelled, ← numeralValue_eq_ofDigits spelled]
  rfl

theorem resolveTarget_undeclared {limit : DigitLimit} {name : String}
    (word : isNumeral name.toList = false) (undeclared : Undeclared tokens name) :
    resolveTarget limit (labelTable tokens) (instructionCount tokens) index line
      (.name name) = .error ⟨name, line, .undefined⟩ := by
  have absent := labelTable_get?_of_undeclared undeclared
  simp only [resolveTarget, word, absent, Bool.false_eq_true, if_false]

theorem resolveTarget_declared {limit : DigitLimit} {name : String}
    {before after : List (Token Target)} (word : isNumeral name.toList = false)
    (declared : LastDeclared tokens name before after) :
    resolveTarget limit (labelTable tokens) (instructionCount tokens) index line
      (.name name) =
        if 0 < instructionCount after then .ok (instructionCount before)
        else .error ⟨name, line, .dangling⟩ := by
  have counted := declared.instructionCount_eq
  have inside : instructionCount before < instructionCount tokens ↔
      0 < instructionCount after := by omega
  simp only [resolveTarget, word, declared.labelTable_get?, inside, Bool.false_eq_true, if_false]

theorem resolveTarget_eq_ok_iff {target : Target} {place : Int} :
    resolveTarget .unlimited (labelTable tokens) (instructionCount tokens) index line target =
      .ok place ↔ Resolves tokens index target place := by
  constructor
  · intro resolved
    cases target with
    | number distance =>
        rw [← Except.ok.inj resolved]
        exact .offset distance
    | name name =>
        cases word : isNumeral name.toList with
        | true =>
            rw [resolveTarget_numeral word] at resolved
            rw [← Except.ok.inj resolved]
            exact .numeral word
        | false =>
            rcases undeclared_or_lastDeclared tokens name with
              undeclared | ⟨before, after, declared⟩
            · rw [resolveTarget_undeclared word undeclared] at resolved
              cases resolved
            · rw [resolveTarget_declared word declared] at resolved
              split at resolved
              · next followed =>
                rw [← Except.ok.inj resolved]
                exact .label word declared followed
              · cases resolved
  · intro resolves
    cases resolves with
    | offset distance => rfl
    | numeral spelled => exact resolveTarget_numeral spelled
    | label word declared followed => rw [resolveTarget_declared word declared, if_pos followed]

/-- An operand is refused for what it is, whatever the index of its instruction. -/
theorem resolveTarget_eq_error_iff {target : Target} {error : LinkError} :
    resolveTarget .unlimited (labelTable tokens) (instructionCount tokens) index line target =
      .error error ↔
        target = .name error.label ∧ line = error.line ∧
          Unresolvable tokens target error.cause := by
  constructor
  · intro refused
    cases target with
    | number distance => cases refused
    | name name =>
        cases word : isNumeral name.toList with
        | true =>
            rw [resolveTarget_numeral word] at refused
            cases refused
        | false =>
            rcases undeclared_or_lastDeclared tokens name with
              undeclared | ⟨before, after, declared⟩
            · rw [resolveTarget_undeclared word undeclared] at refused
              rw [← Except.error.inj refused]
              exact ⟨rfl, rfl, .undefined word undeclared⟩
            · rw [resolveTarget_declared word declared] at refused
              split at refused
              · cases refused
              · next trailing =>
                rw [← Except.error.inj refused]
                exact ⟨rfl, rfl, .dangling word declared (Nat.eq_zero_of_not_pos trailing)⟩
  · obtain ⟨label, place, cause⟩ := error
    rintro ⟨rfl, rfl, unresolvable⟩
    cases unresolvable with
    | undefined word undeclared => exact resolveTarget_undeclared word undeclared
    | dangling word declared trailing =>
        rw [resolveTarget_declared word declared, trailing, if_neg (Nat.lt_irrefl 0)]

end Operands

/-! ## The program that tokens are linked to -/

/-- An instruction for each of the tokens that are instructions, in their order: the same but
for its label, its trace flag and its operands, each of which is what it stands for. -/
structure IsLinked (tokens : List (Token Target)) (program : Program) : Prop where
  length_eq : program.length = instructionCount tokens
  placed : ∀ before body after, tokens = before ++ .instruction body :: after →
    ∃ operation, body.operation.MapsTo (Resolves tokens (instructionCount before)) operation ∧
      program[instructionCount before]? =
        some ⟨operation, body.text, body.line, tracedSince before, labelSince before⟩

theorem link_eq_ok_iff {tokens : List (Token Target)} {program : Program} :
    link .unlimited tokens = .ok program ↔ IsLinked tokens program := by
  rw [link, linkFrom_eq_ok_iff, linkedFrom_iff, length_attach]
  constructor
  · rintro ⟨sameLength, pointwise⟩
    refine ⟨sameLength, ?_⟩
    rintro before body after rfl
    obtain ⟨operation, resolved, found⟩ := pointwise _ _ (attach_getElem? before after body)
    rw [Nat.zero_add] at resolved
    exact ⟨operation, resolved.imp fun _ _ => resolveTarget_eq_ok_iff.mp, found⟩
  · rintro ⟨sameLength, placed⟩
    refine ⟨sameLength, fun place attached inPlace => ?_⟩
    have within : place < instructionCount tokens := by
      rw [← length_attach none false tokens]
      exact (List.getElem?_eq_some_iff.mp inPlace).1
    obtain ⟨before, body, after, rfl, rfl⟩ := exists_instruction_at within
    rw [attach_getElem?] at inPlace
    rw [← Option.some.inj inPlace, Nat.zero_add]
    obtain ⟨operation, resolves, found⟩ := placed before body after rfl
    exact ⟨operation, resolves.imp fun _ _ => resolveTarget_eq_ok_iff.mpr, found⟩

/-! ## The first operand that stands for nothing -/

/-- A jump operand and the line of its instruction. -/
structure Reference where
  line : Int
  target : Target

def Instruction.references (body : Instruction Target) : List Reference :=
  body.operation.operands.map fun target => ⟨body.line, target⟩

def Token.references : Token Target → List Reference
  | .instruction body => body.references
  | .label _ _ _ | .trace _ _ => []

/-- The operands in program order, the positive branch of a decrement first. -/
def references (tokens : List (Token Target)) : List Reference :=
  tokens.flatMap Token.references

theorem mem_references {tokens : List (Token Target)} {body : Instruction Target}
    {target : Target} (member : .instruction body ∈ tokens)
    (operand : target ∈ body.operation.operands) : ⟨body.line, target⟩ ∈ references tokens :=
  List.mem_flatMap.mpr ⟨_, member, List.mem_map_of_mem operand⟩

/-- The error names the first operand that stands for nothing, with its line and its cause. -/
def BlamesFirst (tokens : List (Token Target)) (error : LinkError) : Prop :=
  ∃ earlier later,
    references tokens = earlier ++ ⟨error.line, .name error.label⟩ :: later ∧
      Unresolvable tokens (.name error.label) error.cause ∧
      ∀ reference ∈ earlier, ∀ cause, ¬ Unresolvable tokens reference.target cause

/-- Labels and trace flags are no operands. -/
private theorem references_attach (label : Option String) (traced : Bool)
    (tokens : List (Token Target)) :
    (attach label traced tokens).flatMap Instruction.references = references tokens := by
  induction tokens generalizing label traced with
  | nil => rfl
  | cons token later inductionHypothesis =>
      cases token with
      | label name text line => exact inductionHypothesis (some name) traced
      | trace text line => exact inductionHypothesis label true
      | instruction body =>
          rw [attach, List.flatMap_cons, inductionHypothesis none false]
          rfl

/-- How an operand fails, seen from the first instruction. -/
def Reference.failure? (tokens : List (Token Target)) (reference : Reference) :
    Option LinkError :=
  CounterMachine.failure? (resolveTarget .unlimited (labelTable tokens)
    (instructionCount tokens) 0 reference.line reference.target)

section Failures

variable {tokens : List (Token Target)}

/-- An operand fails in the same way in every instruction. -/
private theorem failure?_resolveTarget (index : Nat) (line : Int) (target : Target) :
    failure? (resolveTarget .unlimited (labelTable tokens) (instructionCount tokens) index line
      target) = Reference.failure? tokens ⟨line, target⟩ := by
  apply Option.ext
  intro error
  rw [Reference.failure?, failure?_eq_some, failure?_eq_some, resolveTarget_eq_error_iff,
    resolveTarget_eq_error_iff]

theorem Reference.failure?_eq_some_iff {reference : Reference} {error : LinkError} :
    reference.failure? tokens = some error ↔
      reference = ⟨error.line, .name error.label⟩ ∧
        Unresolvable tokens (.name error.label) error.cause := by
  obtain ⟨line, target⟩ := reference
  rw [failure?, failure?_eq_some, resolveTarget_eq_error_iff, Reference.mk.injEq]
  constructor
  · rintro ⟨rfl, rfl, unresolvable⟩
    exact ⟨⟨rfl, rfl⟩, unresolvable⟩
  · rintro ⟨⟨rfl, rfl⟩, unresolvable⟩
    exact ⟨rfl, rfl, unresolvable⟩

/-- An operand fails exactly when it stands for nothing. -/
theorem Reference.exists_failure?_iff {reference : Reference} :
    (∃ error, reference.failure? tokens = some error) ↔
      ∃ cause, Unresolvable tokens reference.target cause := by
  constructor
  · rintro ⟨error, failed⟩
    obtain ⟨rfl, unresolvable⟩ := failure?_eq_some_iff.mp failed
    exact ⟨error.cause, unresolvable⟩
  · obtain ⟨line, target⟩ := reference
    rintro ⟨cause, unresolvable⟩
    cases target with
    | number distance => cases unresolvable
    | name name => exact ⟨⟨name, line, cause⟩, failure?_eq_some_iff.mpr ⟨rfl, unresolvable⟩⟩

/-- Linking fails as the first operand that fails. -/
private theorem failure?_linkFrom (index : Nat) (instructions : List (Instruction Target)) :
    failure? (linkFrom .unlimited (labelTable tokens) (instructionCount tokens) index
      instructions) =
        (instructions.flatMap Instruction.references).findSome? (Reference.failure? tokens) := by
  induction instructions generalizing index with
  | nil => rfl
  | cons body later inductionHypothesis =>
      have here : body.references.findSome? (Reference.failure? tokens) =
          failure? (body.operation.mapOperands (resolveTarget .unlimited (labelTable tokens)
            (instructionCount tokens) index body.line)) := by
        rw [Operation.failure?_mapOperands, Instruction.references, List.findSome?_map]
        congr 1
        funext target
        exact (failure?_resolveTarget index body.line target).symm
      rw [linkFrom, List.flatMap_cons, List.findSome?_append, here,
        ← inductionHypothesis (index + 1)]
      cases body.operation.mapOperands (resolveTarget .unlimited (labelTable tokens)
          (instructionCount tokens) index body.line) with
      | error failure => rfl
      | ok operation =>
          cases linkFrom .unlimited (labelTable tokens) (instructionCount tokens) (index + 1)
              later with
          | error failure => rfl
          | ok rest => rfl

theorem link_eq_error_iff_findSome? {error : LinkError} :
    link .unlimited tokens = .error error ↔
      (references tokens).findSome? (Reference.failure? tokens) = some error := by
  rw [← failure?_eq_some, link, length_attach, failure?_linkFrom, references_attach]

theorem link_eq_error_iff {error : LinkError} :
    link .unlimited tokens = .error error ↔ BlamesFirst tokens error := by
  rw [link_eq_error_iff_findSome?, List.findSome?_eq_some_iff]
  have resolvable : ∀ reference : Reference, reference.failure? tokens = none ↔
      ∀ cause, ¬ Unresolvable tokens reference.target cause := by
    intro reference
    rw [← not_exists, ← Reference.exists_failure?_iff, Option.eq_none_iff_forall_ne_some,
      not_exists]
  simp only [resolvable, Reference.failure?_eq_some_iff]
  constructor
  · rintro ⟨earlier, reference, later, split, ⟨rfl, unresolvable⟩, first⟩
    exact ⟨earlier, later, split, unresolvable, first⟩
  · rintro ⟨earlier, later, split, unresolvable, first⟩
    exact ⟨earlier, _, later, split, ⟨rfl, unresolvable⟩, first⟩

theorem exists_link_eq_error_iff :
    (∃ error, link .unlimited tokens = .error error) ↔
      ∃ reference ∈ references tokens, ∃ cause, Unresolvable tokens reference.target cause := by
  simp only [link_eq_error_iff_findSome?, ← Reference.exists_failure?_iff,
    ← Option.isSome_iff_exists, List.findSome?_isSome_iff]

end Failures

/-! ## The report of a failure -/

/-- The code under which a label that stands for nothing is reported. -/
inductive FaultCode (tokens : List (Token Target)) (label : String) : ErrorCode → Prop where
  | undefined (undeclared : Undeclared tokens label) : FaultCode tokens label .undefinedLabel
  | dangling {before after : List (Token Target)}
      (declared : LastDeclared tokens label before after)
      (trailing : instructionCount after = 0) : FaultCode tokens label .danglingLabel

/-- The diagnostic carries the operand, the line of its instruction, and the code for what is
wrong with it. -/
structure Diagnostic.Shows (tokens : List (Token Target)) (label : String) (line : Int)
    (diagnostic : Diagnostic) : Prop where
  label_eq : diagnostic.detail = .link label
  line_eq : diagnostic.span.line = line
  fault : FaultCode tokens label diagnostic.code

theorem Unresolvable.shows {tokens : List (Token Target)} {error : LinkError}
    (unresolvable : Unresolvable tokens (.name error.label) error.cause) :
    error.diagnostic.Shows tokens error.label error.line := by
  obtain ⟨label, line, cause⟩ := error
  refine ⟨rfl, rfl, ?_⟩
  cases unresolvable with
  | undefined word undeclared => exact .undefined undeclared
  | dangling word declared trailing => exact .dangling declared trailing

/-- Linking succeeds with the program that the tokens stand for, and fails exactly when some
operand stands for nothing; it then blames the first such operand, and reports it under the code
for its fault. -/
theorem link_follows_declarations (tokens : List (Token Target)) :
    (∀ program, link .unlimited tokens = .ok program ↔ IsLinked tokens program) ∧
      (∀ error, link .unlimited tokens = .error error ↔ BlamesFirst tokens error) ∧
      ((∃ error, link .unlimited tokens = .error error) ↔
        ∃ reference ∈ references tokens, ∃ cause,
          Unresolvable tokens reference.target cause) ∧
      (∀ error, link .unlimited tokens = .error error →
        error.diagnostic.Shows tokens error.label error.line) := by
  refine ⟨fun _ => link_eq_ok_iff, fun _ => link_eq_error_iff, exists_link_eq_error_iff, ?_⟩
  intro error refused
  obtain ⟨earlier, later, -, unresolvable, -⟩ := link_eq_error_iff.mp refused
  exact unresolvable.shows

/-- The jump comes before the declaration that counts, and goes to it all the same. -/
example :
    link .unlimited
      [.label "again" "again:" 1, .instruction ⟨.inc "r0" (.name "again"), "r0+ -> again", 1,
        false, none⟩, .label "again" "again:" 2, .trace "trace" 2, .instruction ⟨.halt "", "halt",
        2, false, none⟩] =
      .ok [⟨.inc "r0" 1, "r0+ -> again", 1, false, some "again"⟩,
        ⟨.halt "", "halt", 2, true, some "again"⟩] := by
  decide

end CounterMachine
