import CounterMachine.Proofs.Linking
import CounterMachine.Proofs.Numbering.Operations
import CounterMachine.Proofs.Source.Scanning

/-!
Contract: which programs have no number, and where their refusal points.

Owns: the operations without a number, each with the error that refuses it; that a program is
refused exactly when one of its instructions has no number, with the error of the first one; and
the line that the error is reported at.

Does not own: the numbers of the other programs, and refusals under a limit on digits.

## Why the line can be missing

An operand is refused together with the line of its instruction. A register is refused by its
name alone, so that the report of an unnumbered register is at line zero, which stands for no
line. An increment's register is looked at before its operand, a decrement's after both.
-/

set_option autoImplicit false

namespace CounterMachine

open Text

/-! ## Registers and operands -/

/-- The register is the letter r before decimal digits, of which there is at least one. -/
def NamesIndex (register : String) : Prop :=
  ∃ digits, register.toList = 'r' :: digits ∧ digits ≠ [] ∧
    ∀ digit ∈ digits, isDecimalDigit digit = true

theorem namesIndex_iff {register : String} :
    NamesIndex register ↔ ∃ digits, registerDigits? register = some digits := by
  unfold NamesIndex registerDigits?
  constructor
  · rintro ⟨digits, spelled, nonempty, decimal⟩
    have numeral : isNumeral digits = true := by
      simpa [isNumeral, nonempty] using decimal
    exact ⟨digits, by rw [spelled]; exact if_pos numeral⟩
  · rintro ⟨digits, found⟩
    split at found
    · next others spelled =>
      split at found
      · next numeral =>
        cases found
        have parts : digits ≠ [] ∧ ∀ digit ∈ digits, isDecimalDigit digit = true := by
          simpa [isNumeral] using numeral
        exact ⟨digits, spelled, parts⟩
      · cases found
    · cases found

/-- Without a limit a register either has an index or is refused by its name. -/
private theorem registerIndex_cases (register : String) :
    (NamesIndex register ∧ ∃ index, registerIndex .unlimited register = .ok index) ∨
      (¬ NamesIndex register ∧
        registerIndex .unlimited register = .error (.unnumberedRegister register)) := by
  rw [namesIndex_iff]
  cases found : registerDigits? register with
  | none =>
      refine .inr ⟨?_, by simp only [registerIndex, found]⟩
      rintro ⟨digits, impossible⟩
      cases impossible
  | some digits =>
      refine .inl ⟨⟨digits, rfl⟩, numeralValue digits, ?_⟩
      simp only [registerIndex, found, readNumeral?_unlimited]

private theorem exists_registerIndex_iff {register : String} :
    (∃ index, registerIndex .unlimited register = .ok index) ↔ NamesIndex register := by
  rcases registerIndex_cases register with ⟨named, indexed⟩ | ⟨unnamed, refused⟩
  · exact iff_of_true indexed named
  · simp [refused, unnamed]

private theorem registerIndex_eq_error_iff {register : String} {error : EncodeError} :
    registerIndex .unlimited register = .error error ↔
      ¬ NamesIndex register ∧ error = .unnumberedRegister register := by
  rcases registerIndex_cases register with ⟨named, index, indexed⟩ | ⟨unnamed, refused⟩
  · simp [indexed, named]
  · simp [refused, unnamed, eq_comm]

private theorem absoluteIndex_eq_error_iff {line value : Int} {error : EncodeError} :
    absoluteIndex .unlimited line (.number value) = .error error ↔
      value < 0 ∧ error = .notAbsolute (.number value) line := by
  by_cases negative : value < 0
  · have refused : absoluteIndex .unlimited line (.number value) =
        .error (.notAbsolute (.number value) line) := by
      rw [absoluteIndex, if_pos negative]
      rfl
    simp [refused, negative, eq_comm]
  · have accepted : absoluteIndex .unlimited line (.number value) = .ok value.toNat := by
      rw [absoluteIndex, if_neg negative]
    simp [accepted, negative]

private theorem exists_absoluteIndex_iff {line value : Int} :
    (∃ index, absoluteIndex .unlimited line (.number value) = .ok index) ↔ 0 ≤ value := by
  simp only [absoluteIndex_eq_ok_iff]
  constructor
  · rintro ⟨index, rfl⟩
    exact Int.natCast_nonneg index
  · exact Int.eq_ofNat_of_zero_le

/-! ## Instructions -/

/-- Operations without a number: those that set a register, and those that count a register
without an index or jump to a negative place. -/
def Operation.Unnumbered : Operation Int → Prop
  | .init _ _ | .eval _ _ _ => True
  | .inc register next => ¬ NamesIndex register ∨ next < 0
  | .dec register onPositive onZero => ¬ NamesIndex register ∨ onPositive < 0 ∨ onZero < 0
  | .halt _ => False

/-- The error with which an operation on a line is refused. -/
inductive Operation.RefusedWith (line : Int) : Operation Int → EncodeError → Prop where
  | init (register : String) (value : Int) :
      RefusedWith line (.init register value) (.unnumbered "init" line)
  | eval (description register code : String) :
      RefusedWith line (.eval description register code) (.unnumbered "eval" line)
  | incRegister {register : String} (next : Int) (unnamed : ¬ NamesIndex register) :
      RefusedWith line (.inc register next) (.unnumberedRegister register)
  | incOperand {register : String} {next : Int} (named : NamesIndex register)
      (negative : next < 0) :
      RefusedWith line (.inc register next) (.notAbsolute (.number next) line)
  | decPositive (register : String) {onPositive : Int} (onZero : Int)
      (negative : onPositive < 0) :
      RefusedWith line (.dec register onPositive onZero) (.notAbsolute (.number onPositive) line)
  | decZero (register : String) {onPositive onZero : Int} (natural : 0 ≤ onPositive)
      (negative : onZero < 0) :
      RefusedWith line (.dec register onPositive onZero) (.notAbsolute (.number onZero) line)
  | decRegister {register : String} {onPositive onZero : Int} (natural : 0 ≤ onPositive)
      (zeroNatural : 0 ≤ onZero) (unnamed : ¬ NamesIndex register) :
      RefusedWith line (.dec register onPositive onZero) (.unnumberedRegister register)

/-- By cases on the operation, whose parts are looked at in order. -/
theorem Instruction.numbered_eq_error_iff {body : Instruction Int} {error : EncodeError} :
    body.numbered .unlimited = .error error ↔ body.operation.RefusedWith body.line error := by
  obtain ⟨operation, text, line, trace, label⟩ := body
  constructor
  · intro refused
    cases operation with
    | halt reason => cases refused
    | init register value =>
        cases refused
        exact .init register value
    | eval description register code =>
        cases refused
        exact .eval description register code
    | inc register next =>
        rcases bind_eq_error.mp refused with refused | ⟨index, indexed, refused⟩
        · obtain ⟨unnamed, rfl⟩ := registerIndex_eq_error_iff.mp refused
          exact .incRegister next unnamed
        · rcases bind_eq_error.mp refused with refused | ⟨place, -, impossible⟩
          · obtain ⟨negative, rfl⟩ := absoluteIndex_eq_error_iff.mp refused
            exact .incOperand (exists_registerIndex_iff.mp ⟨index, indexed⟩) negative
          · cases impossible
    | dec register onPositive onZero =>
        rcases bind_eq_error.mp refused with refused | ⟨positivePlace, positiveRead, refused⟩
        · obtain ⟨negative, rfl⟩ := absoluteIndex_eq_error_iff.mp refused
          exact .decPositive register onZero negative
        · have natural := exists_absoluteIndex_iff.mp ⟨positivePlace, positiveRead⟩
          rcases bind_eq_error.mp refused with refused | ⟨zeroPlace, zeroRead, refused⟩
          · obtain ⟨negative, rfl⟩ := absoluteIndex_eq_error_iff.mp refused
            exact .decZero register natural negative
          · have zeroNatural := exists_absoluteIndex_iff.mp ⟨zeroPlace, zeroRead⟩
            rcases bind_eq_error.mp refused with refused | ⟨index, -, impossible⟩
            · obtain ⟨unnamed, rfl⟩ := registerIndex_eq_error_iff.mp refused
              exact .decRegister natural zeroNatural unnamed
            · cases impossible
  · intro refused
    cases refused with
    | init register value => rfl
    | eval description register code => rfl
    | incRegister next unnamed =>
        exact bind_eq_error.mpr (.inl (registerIndex_eq_error_iff.mpr ⟨unnamed, rfl⟩))
    | incOperand named negative =>
        obtain ⟨index, indexed⟩ := exists_registerIndex_iff.mpr named
        apply bind_eq_error.mpr
        refine .inr ⟨index, indexed, bind_eq_error.mpr (.inl ?_)⟩
        exact absoluteIndex_eq_error_iff.mpr ⟨negative, rfl⟩
    | decPositive register onZero negative =>
        exact bind_eq_error.mpr (.inl (absoluteIndex_eq_error_iff.mpr ⟨negative, rfl⟩))
    | decZero register natural negative =>
        obtain ⟨place, read⟩ := exists_absoluteIndex_iff.mpr natural
        apply bind_eq_error.mpr
        refine .inr ⟨place, read, bind_eq_error.mpr (.inl ?_)⟩
        exact absoluteIndex_eq_error_iff.mpr ⟨negative, rfl⟩
    | decRegister natural zeroNatural unnamed =>
        obtain ⟨place, read⟩ := exists_absoluteIndex_iff.mpr natural
        obtain ⟨zeroPlace, zeroRead⟩ := exists_absoluteIndex_iff.mpr zeroNatural
        apply bind_eq_error.mpr
        refine .inr ⟨place, read, bind_eq_error.mpr (.inr ⟨zeroPlace, zeroRead, ?_⟩)⟩
        exact bind_eq_error.mpr (.inl (registerIndex_eq_error_iff.mpr ⟨unnamed, rfl⟩))

/-- An operation has no number exactly when there is an error to refuse it with. -/
theorem Operation.unnumbered_iff (line : Int) {operation : Operation Int} :
    operation.Unnumbered ↔ ∃ error, operation.RefusedWith line error := by
  constructor
  · intro unnumbered
    cases operation with
    | halt reason => cases unnumbered
    | init register value => exact ⟨_, .init register value⟩
    | eval description register code => exact ⟨_, .eval description register code⟩
    | inc register next =>
        by_cases named : NamesIndex register
        · exact ⟨_, .incOperand named (unnumbered.resolve_left (not_not_intro named))⟩
        · exact ⟨_, .incRegister next named⟩
    | dec register onPositive onZero =>
        by_cases negative : onPositive < 0
        · exact ⟨_, .decPositive register onZero negative⟩
        · have natural := Int.not_lt.mp negative
          by_cases zeroNegative : onZero < 0
          · exact ⟨_, .decZero register natural zeroNegative⟩
          · have unnamed := unnumbered.resolve_right (not_or.mpr ⟨negative, zeroNegative⟩)
            exact ⟨_, .decRegister natural (Int.not_lt.mp zeroNegative) unnamed⟩
  · rintro ⟨error, refused⟩
    cases refused with
    | init register value => trivial
    | eval description register code => trivial
    | incRegister next unnamed => exact .inl unnamed
    | incOperand named negative => exact .inr negative
    | decPositive register onZero negative => exact .inr (.inl negative)
    | decZero register natural negative => exact .inr (.inr negative)
    | decRegister natural zeroNatural unnamed => exact .inl unnamed

/-! ## Programs -/

private theorem encodeToken_eq_error_iff {body : Instruction Int} {error : EncodeError} :
    encodeToken .unlimited (.instruction body) = .error error ↔
      body.operation.RefusedWith body.line error := by
  rw [← Instruction.numbered_eq_error_iff]
  constructor
  · intro refused
    rcases bind_eq_error.mp refused with refused | ⟨numbered, -, impossible⟩
    · exact refused
    · cases impossible
  · intro refused
    exact bind_eq_error.mpr (.inl refused)

private theorem not_unnumbered_iff {body : Instruction Int} :
    ¬ body.operation.Unnumbered ↔
      ∃ code, encodeToken .unlimited (.instruction body) = .ok code := by
  rw [Operation.unnumbered_iff body.line]
  simp only [← encodeToken_eq_error_iff]
  cases encodeToken .unlimited (.instruction body) with
  | ok code => simp
  | error error => simp

/-- The error refuses the first instruction of the program that has no number. -/
def Program.RefusedFor (program : Program) (body : Instruction Int) (error : EncodeError) : Prop :=
  body.operation.RefusedWith body.line error ∧
    ∃ before after, program = before ++ body :: after ∧
      ∀ earlier ∈ before, ¬ earlier.operation.Unnumbered

/-- By induction on the program: an instruction that has a number hands on to the next one. -/
private theorem encodeTokens_eq_error_iff {program : Program} {error : EncodeError} :
    encodeTokens .unlimited program.tokens = .error error ↔
      ∃ body, program.RefusedFor body error := by
  induction program with
  | nil =>
      constructor
      · intro impossible
        cases impossible
      · rintro ⟨body, -, before, after, impossible, -⟩
        cases before <;> cases impossible
  | cons first later inductionHypothesis =>
      constructor
      · intro refused
        rcases bind_eq_error.mp refused with refusedHere | ⟨code, accepted, refused⟩
        · have refusedWith := encodeToken_eq_error_iff.mp refusedHere
          exact ⟨first, refusedWith, [], later, rfl, fun _ none => absurd none List.not_mem_nil⟩
        · rcases bind_eq_error.mp refused with refusedLater | ⟨codes, -, impossible⟩
          · obtain ⟨body, refusedWith, before, after, rfl, numbered⟩ :=
              inductionHypothesis.mp refusedLater
            refine ⟨body, refusedWith, first :: before, after, rfl, ?_⟩
            exact List.forall_mem_cons.mpr ⟨not_unnumbered_iff.mpr ⟨code, accepted⟩, numbered⟩
          · cases impossible
      · rintro ⟨body, refusedWith, before, after, split, numbered⟩
        cases before with
        | nil =>
            obtain ⟨rfl, rfl⟩ := List.cons.inj split
            exact bind_eq_error.mpr (.inl (encodeToken_eq_error_iff.mpr refusedWith))
        | cons other before =>
            obtain ⟨rfl, rfl⟩ := List.cons.inj split
            obtain ⟨numberedFirst, numberedBefore⟩ := List.forall_mem_cons.mp numbered
            obtain ⟨code, accepted⟩ := not_unnumbered_iff.mp numberedFirst
            have refusedLater := inductionHypothesis.mpr
              ⟨body, refusedWith, before, after, rfl, numberedBefore⟩
            exact bind_eq_error.mpr (.inr ⟨code, accepted, bind_eq_error.mpr (.inl refusedLater)⟩)

theorem Program.encode_eq_error_iff {program : Program} {error : EncodeError} :
    program.encode .unlimited = .error error ↔ ∃ body, program.RefusedFor body error := by
  rw [← encodeTokens_eq_error_iff]
  constructor
  · intro refused
    rcases bind_eq_error.mp refused with refused | ⟨codes, -, impossible⟩
    · exact refused
    · cases impossible
  · intro refused
    exact bind_eq_error.mpr (.inl refused)

/-- A program is refused exactly when some instruction of it has no number. -/
theorem Program.exists_encode_eq_error_iff {program : Program} :
    (∃ error, program.encode .unlimited = .error error) ↔
      ∃ body ∈ program, body.operation.Unnumbered := by
  simp only [Program.encode_eq_error_iff]
  constructor
  · rintro ⟨error, body, refusedWith, before, after, rfl, -⟩
    refine ⟨body, List.mem_append_right before List.mem_cons_self, ?_⟩
    exact (Operation.unnumbered_iff body.line).mpr ⟨error, refusedWith⟩
  · rintro ⟨other, member, unnumbered⟩
    classical
    have some : (program.find? fun body => decide body.operation.Unnumbered).isSome :=
      List.find?_isSome.mpr ⟨other, member, decide_eq_true unnumbered⟩
    obtain ⟨body, found⟩ := Option.isSome_iff_exists.mp some
    obtain ⟨first, before, after, split, none⟩ := List.find?_eq_some_iff_append.mp found
    obtain ⟨error, refusedWith⟩ :=
      (Operation.unnumbered_iff body.line).mp (of_decide_eq_true first)
    refine ⟨error, body, refusedWith, before, after, split, fun earlier inBefore => ?_⟩
    simpa using none earlier inBefore

/-! ## Lines -/

/-- The error is reported as one of numbering, at the line. -/
def EncodeError.ReportedAt (error : EncodeError) (line : Int) : Prop :=
  ∃ diagnostic, error.failure = .diagnostic diagnostic ∧ diagnostic.family = .encode ∧
    diagnostic.span.line = line

/-- What refuses the operation is the name of its register. -/
def Operation.RefusedByName : Operation Int → Prop
  | .inc register _ => ¬ NamesIndex register
  | .dec register onPositive onZero => 0 ≤ onPositive ∧ 0 ≤ onZero ∧ ¬ NamesIndex register
  | .init _ _ | .eval _ _ _ | .halt _ => False

/-- A refusal by name is reported at no line, any other at the line of the instruction. -/
theorem Operation.RefusedWith.reportedAt {operation : Operation Int} {line : Int}
    {error : EncodeError} (refused : operation.RefusedWith line error) :
    (operation.RefusedByName ∧ error.ReportedAt 0) ∨
      (¬ operation.RefusedByName ∧ error.ReportedAt line) := by
  cases refused with
  | init register value => exact .inr ⟨not_false, _, rfl, rfl, rfl⟩
  | eval description register code => exact .inr ⟨not_false, _, rfl, rfl, rfl⟩
  | incRegister next unnamed => exact .inl ⟨unnamed, _, rfl, rfl, rfl⟩
  | incOperand named negative => exact .inr ⟨not_not_intro named, _, rfl, rfl, rfl⟩
  | decPositive register onZero negative =>
      refine .inr ⟨?_, _, rfl, rfl, rfl⟩
      rintro ⟨natural, -, -⟩
      omega
  | decZero register natural negative =>
      refine .inr ⟨?_, _, rfl, rfl, rfl⟩
      rintro ⟨-, zeroNatural, -⟩
      omega
  | decRegister natural zeroNatural unnamed =>
      exact .inl ⟨⟨natural, zeroNatural, unnamed⟩, _, rfl, rfl, rfl⟩

private theorem one_le_line_of_compile {limit : DigitLimit} {source file : String}
    {program : Program} (compiled : compile limit source file = .ok program)
    {body : Instruction Int} (member : body ∈ program) : 1 ≤ body.line := by
  obtain ⟨tokens, original, parsed, inTokens, sameLine, -⟩ :=
    exists_token_of_mem_compile compiled member
  rw [sameLine]
  exact one_le_line_of_mem_parse parsed inTokens

/-- A compiled program is refused exactly when one of its instructions has no number. The refusal
is about the first such instruction, and is reported at its line, unless it is about the name of
its register: then it is reported at no line. -/
theorem encode_refused_iff {source file : String} {program : Program}
    (compiled : compile .unlimited source file = .ok program) :
    ((∃ error, program.encode .unlimited = .error error) ↔
      ∃ body ∈ program, body.operation.Unnumbered) ∧
    ∀ error, program.encode .unlimited = .error error →
      ∃ before body after line, program = before ++ body :: after ∧
        (∀ earlier ∈ before, ¬ earlier.operation.Unnumbered) ∧
        body.operation.Unnumbered ∧ error.ReportedAt line ∧
        (line = body.line ↔ ¬ body.operation.RefusedByName) ∧
        (body.operation.RefusedByName → line = 0) := by
  refine ⟨Program.exists_encode_eq_error_iff, fun error refused => ?_⟩
  obtain ⟨body, refusedWith, before, after, split, numbered⟩ :=
    Program.encode_eq_error_iff.mp refused
  have unnumbered := (Operation.unnumbered_iff body.line).mpr ⟨error, refusedWith⟩
  have member : body ∈ program := split ▸ List.mem_append_right before List.mem_cons_self
  have known := one_le_line_of_compile compiled member
  rcases refusedWith.reportedAt with ⟨byName, reported⟩ | ⟨otherwise, reported⟩
  · refine ⟨before, body, after, 0, split, numbered, unnumbered, reported, ?_, fun _ => rfl⟩
    exact iff_of_false (by omega) (not_not_intro byName)
  · refine ⟨before, body, after, body.line, split, numbered, unnumbered, reported, ?_, ?_⟩
    · exact iff_of_true rfl otherwise
    · intro byName
      exact absurd byName otherwise

/-- Jumps from its second instruction to a place before the first. -/
def backing : Program :=
  [⟨.halt "Halt", "halt", 1, false, none⟩, ⟨.dec "r0" (-8) 0, "r0- -> -9, 0", 2, false, none⟩]

/-- The decrement is the first instruction without a number, and refused at its line. -/
theorem encode_refused_backing :
    compile .unlimited "halt\nr0- -> -9, 0" = .ok backing ∧
      backing.encode .unlimited = .error (.notAbsolute (.number (-8)) 2) ∧
      EncodeError.ReportedAt (.notAbsolute (.number (-8)) 2) 2 := by
  have compiled : compile .unlimited "halt\nr0- -> -9, 0" = .ok backing := rfl
  have refused : backing.encode .unlimited = .error (.notAbsolute (.number (-8)) 2) := rfl
  obtain ⟨before, body, after, line, split, -, unnumbered, reported, located, -⟩ :=
    (encode_refused_iff compiled).2 _ refused
  have decrement : body = ⟨.dec "r0" (-8) 0, "r0- -> -9, 0", 2, false, none⟩ := by
    have member : body ∈ backing := split ▸ List.mem_append_right before List.mem_cons_self
    rcases List.mem_cons.mp member with rfl | inRest
    · cases unnumbered
    · exact List.mem_singleton.mp inRest
  have byOperand : ¬ body.operation.RefusedByName := by
    rw [decrement]
    rintro ⟨natural, -, -⟩
    exact absurd natural (by decide)
  rw [located.mpr byOperand, decrement] at reported
  exact ⟨compiled, refused, reported⟩

/-- A register without an index is refused at no line, although it is counted on the second. -/
theorem encode_refused_unlocated :
    ∃ error,
      compile .unlimited "halt\nx+ -> 0" =
          .ok [⟨.halt "Halt", "halt", 1, false, none⟩, ⟨.inc "x" 0, "x+ -> 0", 2, false, none⟩] ∧
        Program.encode .unlimited
          [⟨.halt "Halt", "halt", 1, false, none⟩, ⟨.inc "x" 0, "x+ -> 0", 2, false, none⟩] =
          .error error ∧
        ¬ (Operation.halt "Halt").Unnumbered ∧ (Operation.inc "x" 0).Unnumbered ∧
        error.ReportedAt 0 ∧ ¬ error.ReportedAt 2 := by
  refine ⟨.unnumberedRegister "x", rfl, rfl, not_false, ?_, ⟨_, rfl, rfl, rfl⟩, ?_⟩
  · left
    rintro ⟨digits, spelled, -⟩
    cases spelled
  · rintro ⟨diagnostic, shown, -, line⟩
    cases shown
    cases line

end CounterMachine
