import CounterMachine.Proofs.Linking.Resolution

/-!
Contract: linking tokens that stand behind other tokens.

Owns: the same program at places further on; the conditions under which neither of two sequences of
tokens takes part in the linking of the other; and that the two are then linked, one behind the
other, to their own two programs, of which only the second has moved.

Does not own: what the program that comes out of this does when it is run.

## What would carry over

Four things go on from one token to the next: the number of instructions, the label table, and the
label and the trace marker that wait for an instruction. The number moves offsets and labels alike.
The table is shared, so that no name may be declared twice; and nothing may wait where the second
sequence begins. An index that is written in digits would not move with its instruction.
-/

set_option autoImplicit false

namespace CounterMachine

open Text

/-! ## Programs at places further on -/

/-- The same operation with all its jump operands moved. -/
def Operation.relocated (distance : Int) : Operation Int → Operation Int
  | .inc register next => .inc register (next + distance)
  | .dec register onPositive onZero =>
      .dec register (onPositive + distance) (onZero + distance)
  | .init register value => .init register value
  | .halt reason => .halt reason
  | .eval description register code => .eval description register code

/-- The same program with all its jump operands moved. Nothing else of it changes. -/
def Program.relocated (distance : Int) (program : Program) : Program :=
  program.map fun body => { body with operation := body.operation.relocated distance }

@[simp]
theorem Operation.relocated_zero (operation : Operation Int) :
    operation.relocated 0 = operation := by
  cases operation <;> simp [relocated]

@[simp]
theorem Program.relocated_zero (program : Program) : program.relocated 0 = program := by
  simp [relocated]

/-- Operands that are related to others are related to them further on. -/
theorem Operation.MapsTo.relocated {related moved : Target → Int → Prop}
    {operation : Operation Target} {result : Operation Int} (maps : operation.MapsTo related result)
    {distance : Int}
    (carries : ∀ target ∈ operation.operands, ∀ place, related target place →
      moved target (place + distance)) :
    operation.MapsTo moved (result.relocated distance) := by
  cases maps with
  | init register value => exact .init register value
  | inc register nextRelated =>
      exact .inc register (carries _ List.mem_cons_self _ nextRelated)
  | dec register positiveRelated zeroRelated =>
      exact .dec register (carries _ List.mem_cons_self _ positiveRelated)
        (carries _ (List.mem_cons_of_mem _ List.mem_cons_self) _ zeroRelated)
  | halt reason => exact .halt reason
  | eval description register code => exact .eval description register code

/-! ## Linking in parts -/

section Parts

variable {limit : DigitLimit} {labels otherLabels : Table Nat} {size otherSize index : Nat}
  {instructions later : List (Instruction Target)} {program rest : Program}

theorem LinkedFrom.append (linked : LinkedFrom limit labels size index instructions program)
    (linkedLater : LinkedFrom limit labels size (index + instructions.length) later rest) :
    LinkedFrom limit labels size index (instructions ++ later) (program ++ rest) := by
  induction linked with
  | nil index => exact linkedLater
  | cons resolved linked inductionHypothesis =>
      rw [List.length_cons, Nat.add_comm _ 1, ← Nat.add_assoc] at linkedLater
      exact .cons resolved (inductionHypothesis linkedLater)

/-- Where every operand is resolved so much further on, the program is linked there as well. -/
theorem LinkedFrom.relocated (linked : LinkedFrom limit labels size index instructions program)
    {distance : Nat}
    (carries : ∀ body ∈ instructions, ∀ target ∈ body.operation.operands, ∀ index line place,
      resolveTarget limit labels size index line target = .ok place →
        resolveTarget limit otherLabels otherSize (index + distance) line target =
          .ok (place + distance)) :
    LinkedFrom limit otherLabels otherSize (index + distance) instructions
      (program.relocated distance) := by
  induction linked with
  | nil index => exact .nil (index + distance)
  | cons resolved linked inductionHypothesis =>
      obtain ⟨carriesHere, carriesLater⟩ := List.forall_mem_cons.mp carries
      have rest := inductionHypothesis carriesLater
      rw [Nat.add_right_comm] at rest
      exact .cons (resolved.relocated fun target operand => carriesHere target operand _ _) rest

end Parts

/-! ## Two sequences of tokens -/

section Append

variable {Jump : Type} {first second : List (Token Jump)} {name : String}

/-- There are no tokens, or the last one is an instruction. -/
def EndsSettled (tokens : List (Token Jump)) : Prop :=
  ∀ last ∈ tokens.getLast?, last.isInstruction = true

/-- No name is declared in both sequences. -/
def DeclaredApart (first second : List (Token Jump)) : Prop :=
  ∀ name, Undeclared first name ∨ Undeclared second name

/-- No label and no trace marker waits behind tokens that end in an instruction. -/
theorem EndsSettled.nothing_waits {tokens : List (Token Jump)} (settled : EndsSettled tokens) :
    labelSince tokens = none ∧ tracedSince tokens = false := by
  rcases List.eq_nil_or_concat tokens with rfl | ⟨before, last, rfl⟩
  · exact ⟨rfl, rfl⟩
  · have isInstruction := settled last (by simp)
    cases last with
    | label name text line => cases isInstruction
    | trace text line => cases isInstruction
    | instruction body => simp

theorem Undeclared.append (undeclared : Undeclared first name)
    (undeclaredLater : Undeclared second name) : Undeclared (first ++ second) name := by
  intro token member
  rcases List.mem_append.mp member with inFirst | inSecond
  · exact undeclared token inFirst
  · exact undeclaredLater token inSecond

theorem LastDeclared.declared {before after : List (Token Jump)}
    (declared : LastDeclared first name before after) : ¬ Undeclared first name := by
  obtain ⟨text, line, rfl, -⟩ := declared
  intro undeclared
  exact undeclared (.label name text line) (by simp) rfl

/-- Behind the first sequence the name is not declared again. -/
theorem LastDeclared.append_right {before after : List (Token Jump)}
    (declared : LastDeclared first name before after) (apart : DeclaredApart first second) :
    LastDeclared (first ++ second) name before (after ++ second) := by
  have notAgain := (apart name).resolve_left declared.declared
  obtain ⟨text, line, rfl, last⟩ := declared
  exact ⟨text, line, by simp, last.append notAgain⟩

theorem LastDeclared.append_left {before after : List (Token Jump)}
    (declared : LastDeclared second name before after) (first : List (Token Jump)) :
    LastDeclared (first ++ second) name (first ++ before) after := by
  obtain ⟨text, line, rfl, last⟩ := declared
  exact ⟨text, line, by simp, last⟩

end Append

/-- The operand is written as an index, in digits. -/
def Target.isAbsolute : Target → Bool
  | .name text => isNumeral text.toList
  | .number _ => false

/-- No jump operand of the tokens is written as an index. -/
def Relocatable (tokens : List (Token Target)) : Prop :=
  ∀ reference ∈ references tokens, reference.target.isAbsolute = false

section Link

variable {limit : DigitLimit} {first second : List (Token Target)} {index : Nat} {line : Int}
  {target : Target} {place : Int}

/-- What an operand of the first sequence stands for, it stands for in front of the second. -/
theorem resolveTarget_append_right (apart : DeclaredApart first second)
    (resolved : resolveTarget limit (labelTable first) (instructionCount first) index line target =
      .ok place) :
    resolveTarget limit (labelTable (first ++ second)) (instructionCount (first ++ second)) index
      line target = .ok place := by
  cases target with
  | number distance => exact resolved
  | name name =>
      cases word : isNumeral name.toList with
      | true =>
          rw [resolveTarget, if_pos word] at resolved ⊢
          exact resolved
      | false =>
          rcases undeclared_or_lastDeclared first name with undeclared | ⟨before, after, declared⟩
          · rw [resolveTarget_undeclared word undeclared] at resolved
            cases resolved
          · rw [resolveTarget_declared word declared] at resolved
            split at resolved
            · next followed =>
              have stillFollowed : 0 < instructionCount (after ++ second) := by
                rw [instructionCount_append]
                omega
              rw [resolveTarget_declared word (declared.append_right apart), if_pos stillFollowed]
              exact resolved
            · cases resolved

/-- What an operand of the second sequence stands for moves with it. -/
theorem resolveTarget_append_left (relative : target.isAbsolute = false)
    (resolved : resolveTarget limit (labelTable second) (instructionCount second) index line
      target = .ok place) :
    resolveTarget limit (labelTable (first ++ second)) (instructionCount (first ++ second))
      (index + instructionCount first) line target = .ok (place + instructionCount first) := by
  cases target with
  | number distance =>
      cases resolved
      rw [resolveTarget, Int.natCast_add, Int.add_right_comm]
  | name name =>
      rcases undeclared_or_lastDeclared second name with undeclared | ⟨before, after, declared⟩
      · rw [resolveTarget_undeclared relative undeclared] at resolved
        cases resolved
      · rw [resolveTarget_declared relative declared] at resolved
        rw [resolveTarget_declared relative (declared.append_left first)]
        split at resolved
        · next followed =>
          cases resolved
          rw [if_pos followed, instructionCount_append, Int.natCast_add, Int.add_comm]
        · cases resolved

/-- The operands of attached instructions are operands of tokens. -/
private theorem Relocatable.of_mem_attach {tokens : List (Token Target)}
    (relocatable : Relocatable tokens) {label : Option String} {traced : Bool}
    {body : Instruction Target} (member : body ∈ attach label traced tokens)
    (operand : target ∈ body.operation.operands) : target.isAbsolute = false := by
  obtain ⟨original, inTokens, same, -⟩ := exists_of_mem_attach member
  rw [same] at operand
  exact relocatable _ (mem_references inTokens operand)

end Link

/-- Tokens are linked in parts. Where the first part is empty or ends in an instruction, no name is
declared in both parts and no operand of the second one is written as an index, the two parts are
linked to the program of the first and that of the second, whose jumps have moved by the length
of the first. -/
theorem link_append {limit : DigitLimit} {first second : List (Token Target)}
    {program other : Program} (settled : EndsSettled first) (apart : DeclaredApart first second)
    (relocatable : Relocatable second) (linked : link limit first = .ok program)
    (otherLinked : link limit second = .ok other) :
    link limit (first ++ second) = .ok (program ++ other.relocated program.length) := by
  obtain ⟨noLabel, noTrace⟩ := settled.nothing_waits
  have attached := attach_append [] first second
  rw [List.nil_append, noLabel, noTrace] at attached
  have parted : attach none false (first ++ second) =
      attach none false first ++ attach none false second := attached
  rw [link, linkFrom_eq_ok_iff, length_attach] at linked otherLinked
  have length : program.length = instructionCount first := by
    rw [(linkedFrom_iff.mp linked).1, length_attach]
  rw [link, linkFrom_eq_ok_iff, length_attach, parted, length]
  have front : LinkedFrom limit (labelTable (first ++ second)) (instructionCount (first ++ second))
      (0 + 0) (attach none false first) (program.relocated 0) :=
    linked.relocated fun _ _ _ _ _ _ _ resolved => by
      simpa using resolveTarget_append_right apart resolved
  rw [Program.relocated_zero] at front
  have back : LinkedFrom limit (labelTable (first ++ second)) (instructionCount (first ++ second))
      (0 + instructionCount first) (attach none false second)
      (other.relocated (instructionCount first)) :=
    otherLinked.relocated fun _ member _ operand _ _ _ resolved =>
      resolveTarget_append_left (relocatable.of_mem_attach member operand) resolved
  exact front.append (by rwa [length_attach])

/-- Counts down, and then goes on behind the end. -/
def drainingTokens : List (Token Target) :=
  [.label "loop" "loop:" 1,
    .instruction ⟨.dec "r0" (.name "loop") (.name "1"), "r0- -> loop, 1", 1, false, none⟩]

/-- Counts up for ever, by a label and by an offset. -/
def risingTokens : List (Token Target) :=
  [.trace "trace" 1, .label "again" "again:" 1,
    .instruction ⟨.inc "r1" (.number 1), "r1+", 1, false, none⟩,
    .instruction ⟨.dec "r2" (.number (-1)) (.name "again"), "r2- -> -1, again", 2, false, none⟩]

/-- The index behind the end of the first part leads to the second one. -/
theorem link_append_rising :
    EndsSettled drainingTokens ∧ DeclaredApart drainingTokens risingTokens ∧
      Relocatable risingTokens ∧
      link .standard drainingTokens = .ok
        [⟨.dec "r0" 0 1, "r0- -> loop, 1", 1, false, some "loop"⟩] ∧
      link .standard risingTokens = .ok
        [⟨.inc "r1" 1, "r1+", 1, true, some "again"⟩,
          ⟨.dec "r2" 0 0, "r2- -> -1, again", 2, false, none⟩] ∧
      link .standard (drainingTokens ++ risingTokens) = .ok
        [⟨.dec "r0" 0 1, "r0- -> loop, 1", 1, false, some "loop"⟩,
          ⟨.inc "r1" 2, "r1+", 1, true, some "again"⟩,
          ⟨.dec "r2" 1 1, "r2- -> -1, again", 2, false, none⟩] := by
  have settled : EndsSettled drainingTokens := by
    intro last isLast
    cases isLast
    rfl
  have apart : DeclaredApart drainingTokens risingTokens := by
    intro name
    by_cases loop : name = "loop"
    · right
      subst loop
      unfold Undeclared
      decide
    · left
      intro token member
      simp only [drainingTokens, List.mem_cons, List.not_mem_nil, or_false] at member
      rcases member with rfl | rfl
      · intro same
        exact loop (Option.some.inj same).symm
      · exact nofun
  have relocatable : Relocatable risingTokens := by
    unfold Relocatable
    decide
  have linked : link .standard drainingTokens = .ok
      [⟨.dec "r0" 0 1, "r0- -> loop, 1", 1, false, some "loop"⟩] := rfl
  have otherLinked : link .standard risingTokens = .ok
      [⟨.inc "r1" 1, "r1+", 1, true, some "again"⟩,
        ⟨.dec "r2" 0 0, "r2- -> -1, again", 2, false, none⟩] := rfl
  exact ⟨settled, apart, relocatable, linked, otherLinked,
    link_append settled apart relocatable linked otherLinked⟩

end CounterMachine
