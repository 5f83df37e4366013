import CounterMachine.Linking
import Mathlib.Data.List.DropRight

/-!
Contract: where the tokens of a program stand.

Owns: the number of instructions in front of a token, the labels and trace markers since the
instruction before it, the last declaration of a name, and that the two passes over the tokens
find exactly these. The attachment of labels and trace flags follows the tokens already read;
the label table follows the declarations that no later one replaces.

Does not own: what a jump operand stands for.
-/

set_option autoImplicit false

namespace CounterMachine

namespace Token

variable {Jump : Type}

def isInstruction : Token Jump → Bool
  | .instruction _ => true
  | .label _ _ _ | .trace _ _ => false

def isTrace : Token Jump → Bool
  | .trace _ _ => true
  | .label _ _ _ | .instruction _ => false

/-- The name that a label token declares. -/
def declares? : Token Jump → Option String
  | .label name _ _ => some name
  | .trace _ _ | .instruction _ => none

end Token

variable {Jump : Type}

def instructionCount (tokens : List (Token Jump)) : Nat :=
  tokens.countP Token.isInstruction

/-- The tokens after the last instruction. -/
def sinceInstruction (tokens : List (Token Jump)) : List (Token Jump) :=
  tokens.rtakeWhile (fun token => !token.isInstruction)

/-- The last label declared since the previous instruction. -/
def labelSince (tokens : List (Token Jump)) : Option String :=
  ((sinceInstruction tokens).filterMap Token.declares?).getLast?

/-- Whether a trace marker stands since the previous instruction. -/
def tracedSince (tokens : List (Token Jump)) : Bool :=
  (sinceInstruction tokens).any Token.isTrace

/-! ## Instructions in front of a token -/

@[simp]
theorem instructionCount_label (name text : String) (line : Int) (later : List (Token Jump)) :
    instructionCount (.label name text line :: later) = instructionCount later :=
  rfl

@[simp]
theorem instructionCount_instruction (body : Instruction Jump) (later : List (Token Jump)) :
    instructionCount (.instruction body :: later) = instructionCount later + 1 :=
  List.countP_cons_of_pos rfl

theorem instructionCount_append (before after : List (Token Jump)) :
    instructionCount (before ++ after) = instructionCount before + instructionCount after :=
  List.countP_append

/-- Every index below the number of instructions is the place of one of them. -/
theorem exists_instruction_at {tokens : List (Token Jump)} {place : Nat}
    (within : place < instructionCount tokens) :
    ∃ before body after, tokens = before ++ .instruction body :: after ∧
      instructionCount before = place := by
  induction tokens generalizing place with
  | nil => exact absurd within (Nat.not_lt_zero place)
  | cons token later inductionHypothesis =>
      cases token with
      | label name text line =>
          obtain ⟨before, body, after, split, counted⟩ := inductionHypothesis within
          exact ⟨.label name text line :: before, body, after, by rw [split]; rfl, counted⟩
      | trace text line =>
          obtain ⟨before, body, after, split, counted⟩ := inductionHypothesis within
          exact ⟨.trace text line :: before, body, after, by rw [split]; rfl, counted⟩
      | instruction first =>
          rw [instructionCount_instruction] at within
          cases place with
          | zero => exact ⟨[], first, later, rfl, rfl⟩
          | succ place =>
              obtain ⟨before, body, after, split, counted⟩ :=
                inductionHypothesis (Nat.lt_of_succ_lt_succ within)
              refine ⟨.instruction first :: before, body, after, by rw [split]; rfl, ?_⟩
              rw [instructionCount_instruction, counted]

/-! ## Labels and trace markers since the previous instruction -/

section SinceInstruction

variable (before : List (Token Jump))

private theorem sinceInstruction_instruction (body : Instruction Jump) :
    sinceInstruction (before ++ [.instruction body]) = [] :=
  List.rtakeWhile_concat_neg _ before _ (by simp [Token.isInstruction])

private theorem sinceInstruction_marker {token : Token Jump}
    (marker : token.isInstruction = false) :
    sinceInstruction (before ++ [token]) = sinceInstruction before ++ [token] :=
  List.rtakeWhile_concat_pos _ before token (by simp [marker])

@[simp]
theorem labelSince_label (name text : String) (line : Int) :
    labelSince (before ++ [.label name text line]) = some name := by
  rw [labelSince, sinceInstruction_marker before rfl]
  simp [Token.declares?]

@[simp]
theorem labelSince_trace (text : String) (line : Int) :
    labelSince (before ++ [.trace text line]) = labelSince before := by
  rw [labelSince, sinceInstruction_marker before rfl]
  simp [Token.declares?, labelSince]

@[simp]
theorem labelSince_instruction (body : Instruction Jump) :
    labelSince (before ++ [.instruction body]) = none := by
  rw [labelSince, sinceInstruction_instruction]
  rfl

@[simp]
theorem tracedSince_label (name text : String) (line : Int) :
    tracedSince (before ++ [.label name text line]) = tracedSince before := by
  rw [tracedSince, sinceInstruction_marker before rfl]
  simp [Token.isTrace, tracedSince]

@[simp]
theorem tracedSince_trace (text : String) (line : Int) :
    tracedSince (before ++ [.trace text line]) = true := by
  rw [tracedSince, sinceInstruction_marker before rfl]
  simp [Token.isTrace]

@[simp]
theorem tracedSince_instruction (body : Instruction Jump) :
    tracedSince (before ++ [.instruction body]) = false := by
  rw [tracedSince, sinceInstruction_instruction]
  rfl

end SinceInstruction

theorem length_attach (label : Option String) (traced : Bool) (tokens : List (Token Target)) :
    (attach label traced tokens).length = instructionCount tokens := by
  induction tokens generalizing label traced with
  | nil => rfl
  | cons token later inductionHypothesis =>
      cases token with
      | label name text line => exact inductionHypothesis (some name) traced
      | trace text line => exact inductionHypothesis label true
      | instruction body =>
          rw [instructionCount_instruction, ← inductionHypothesis none false]
          rfl

/-- What is pending after a token is what stands since the instruction before the next one. -/
private theorem attach_cons (before later : List (Token Target)) (token : Token Target) :
    attach (labelSince before) (tracedSince before) (token :: later) =
      attach (labelSince before) (tracedSince before) [token] ++
        attach (labelSince (before ++ [token])) (tracedSince (before ++ [token])) later := by
  cases token with
  | label name text line =>
      rw [labelSince_label, tracedSince_label]
      rfl
  | trace text line =>
      rw [labelSince_trace, tracedSince_trace]
      rfl
  | instruction body =>
      rw [labelSince_instruction, tracedSince_instruction]
      rfl

theorem attach_append (before middle later : List (Token Target)) :
    attach (labelSince before) (tracedSince before) (middle ++ later) =
      attach (labelSince before) (tracedSince before) middle ++
        attach (labelSince (before ++ middle)) (tracedSince (before ++ middle)) later := by
  induction middle generalizing before with
  | nil => rw [List.nil_append, List.append_nil]; rfl
  | cons token rest inductionHypothesis =>
      rw [List.cons_append, attach_cons before (rest ++ later), attach_cons before rest,
        inductionHypothesis, List.append_assoc, List.append_assoc]
      rfl

/-- An instruction is attached to what stands since the previous one. -/
theorem attach_getElem? (before after : List (Token Target)) (body : Instruction Target) :
    (attach none false (before ++ .instruction body :: after))[instructionCount before]? =
      some { body with trace := tracedSince before, label := labelSince before } := by
  have separated := attach_append [] before (.instruction body :: after)
  rw [List.nil_append] at separated
  have counted := length_attach none false before
  calc (attach none false (before ++ .instruction body :: after))[instructionCount before]?
      = (attach none false before ++ attach (labelSince before) (tracedSince before)
          (.instruction body :: after))[instructionCount before]? := by
        exact congrArg (fun attached => attached[instructionCount before]?) separated
    _ = (attach (labelSince before) (tracedSince before)
          (.instruction body :: after))[0]? := by
        rw [List.getElem?_append_right (Nat.le_of_eq counted), counted, Nat.sub_self]
    _ = some { body with trace := tracedSince before, label := labelSince before } := rfl

/-! ## The last declaration of a name -/

/-- No token declares the name. -/
def Undeclared (tokens : List (Token Jump)) (name : String) : Prop :=
  ∀ token ∈ tokens, token.declares? ≠ some name

/-- The name is declared after some tokens, and in none of those after that. -/
def LastDeclared (tokens : List (Token Jump)) (name : String)
    (before after : List (Token Jump)) : Prop :=
  ∃ text line, tokens = before ++ .label name text line :: after ∧ Undeclared after name

theorem undeclared_or_lastDeclared (tokens : List (Token Jump)) (name : String) :
    Undeclared tokens name ∨ ∃ before after, LastDeclared tokens name before after := by
  induction tokens with
  | nil =>
      refine .inl fun token member => ?_
      cases member
  | cons token later inductionHypothesis =>
      rcases inductionHypothesis with undeclared | ⟨before, after, text, line, split, last⟩
      · by_cases declared : token.declares? = some name
        · cases token with
          | label other text line =>
              rw [← Option.some.inj declared]
              rw [← Option.some.inj declared] at undeclared
              exact .inr ⟨[], later, text, line, rfl, undeclared⟩
          | trace text line => cases declared
          | instruction body => cases declared
        · exact .inl (List.forall_mem_cons.mpr ⟨declared, undeclared⟩)
      · exact .inr ⟨token :: before, after, text, line, by rw [split]; rfl, last⟩

/-- Reading a table from tokens goes through any prefix of them. -/
private theorem labelsFrom_append (before after : List (Token Target)) (index : Nat)
    (labels : Table Nat) :
    labelsFrom index labels (before ++ after) =
      labelsFrom (index + instructionCount before) (labelsFrom index labels before) after := by
  induction before generalizing index labels with
  | nil => rfl
  | cons token rest inductionHypothesis =>
      cases token with
      | label name text line => exact inductionHypothesis index (labels.insert name index)
      | trace text line => exact inductionHypothesis index labels
      | instruction body =>
          rw [instructionCount_instruction, Nat.add_comm (instructionCount rest) 1,
            ← Nat.add_assoc]
          exact inductionHypothesis (index + 1) labels

private theorem labelsFrom_get?_of_undeclared {tokens : List (Token Target)} {name : String}
    (undeclared : Undeclared tokens name) (index : Nat) (labels : Table Nat) :
    (labelsFrom index labels tokens).get? name = labels.get? name := by
  induction tokens generalizing index labels with
  | nil => rfl
  | cons token later inductionHypothesis =>
      obtain ⟨notHere, notLater⟩ := List.forall_mem_cons.mp undeclared
      cases token with
      | label other text line =>
          have different : name ≠ other := fun same => notHere (congrArg some same.symm)
          rw [labelsFrom, inductionHypothesis notLater, Table.get?_insert, if_neg different]
      | trace text line => exact inductionHypothesis notLater index labels
      | instruction body => exact inductionHypothesis notLater (index + 1) labels

theorem labelTable_get?_of_undeclared {tokens : List (Token Target)} {name : String}
    (undeclared : Undeclared tokens name) : (labelTable tokens).get? name = none :=
  labelsFrom_get?_of_undeclared undeclared 0 .empty

theorem LastDeclared.labelTable_get? {tokens before after : List (Token Target)} {name : String}
    (declared : LastDeclared tokens name before after) :
    (labelTable tokens).get? name = some (instructionCount before) := by
  obtain ⟨text, line, rfl, last⟩ := declared
  rw [labelTable, labelsFrom_append, Nat.zero_add, labelsFrom,
    labelsFrom_get?_of_undeclared last, Table.get?_insert, if_pos rfl]

theorem LastDeclared.instructionCount_eq {tokens before after : List (Token Target)}
    {name : String} (declared : LastDeclared tokens name before after) :
    instructionCount tokens = instructionCount before + instructionCount after := by
  obtain ⟨text, line, rfl, last⟩ := declared
  rw [instructionCount_append, instructionCount_label]

end CounterMachine
