import CounterMachine.Proofs.Source.Lexemes

/-!
Contract: what the readers of jump operands read.

Owns: the conditions under which a target, the arms of a decrement and an arrow are complete,
and the theorem for each reader that it reads exactly what is complete.

## Why the three kinds of arms do not overlap

Both arms are tried before a single one. The positive arm alone is therefore read only where
no comma stands behind it, or no target behind the comma; where the comma stands at the front,
there is no positive arm.
-/

set_option autoImplicit false

namespace CounterMachine.Source

open Text

/-! ## Targets -/

namespace WrittenTarget

/-- The class of the characters that the operand ends with. -/
def lastClass : WrittenTarget → Char → Bool
  | .offset _ _ => Char.isDigit
  | .word _ => isWord

def IsWritten : WrittenTarget → Prop
  | .offset _ digits => IsRun Char.isDigit digits
  | .word letters => IsRun isWord letters

/-- The operand is complete: what stands behind it does not make it longer. -/
def Fits (target : WrittenTarget) (rest : List Char) : Prop :=
  target.IsWritten ∧ Stops target.lastClass rest

end WrittenTarget

private theorem offset?_eq_some_iff {text rest : List Char} {target : WrittenTarget} :
    offset? text = some (target, rest) ↔
      ∃ negative digits, target = .offset negative digits ∧ text = target.render ++ rest ∧
        target.Fits rest := by
  unfold offset? digits?
  constructor
  · intro read
    split at read
    · next behind =>
        rw [(run?_reads Char.isDigit).bind_eq_some_iff] at read
        obtain ⟨digits, tail, rfl, fit, returned⟩ := read
        obtain ⟨rfl, rfl⟩ := Prod.mk.inj (Option.some.inj returned)
        exact ⟨false, digits, rfl, rfl, fit⟩
    · next behind =>
        rw [(run?_reads Char.isDigit).bind_eq_some_iff] at read
        obtain ⟨digits, tail, rfl, fit, returned⟩ := read
        obtain ⟨rfl, rfl⟩ := Prod.mk.inj (Option.some.inj returned)
        exact ⟨true, digits, rfl, rfl, fit⟩
    · cases read
  · intro written
    rcases written with ⟨negative, digits, rfl, rfl, fit⟩
    cases negative with
    | false =>
        exact (run?_reads Char.isDigit).bind_eq_some_iff.mpr ⟨digits, rest, rfl, fit, rfl⟩
    | true =>
        exact (run?_reads Char.isDigit).bind_eq_some_iff.mpr ⟨digits, rest, rfl, fit, rfl⟩

/-- Only a sign begins an offset. -/
theorem offset?_of_no_sign {mark : Char} (notPlus : mark ≠ '+') (notMinus : mark ≠ '-')
    (behind : List Char) : offset? (mark :: behind) = none := by
  unfold offset?
  split
  · next same => exact absurd (List.cons.inj same).1 notPlus
  · next same => exact absurd (List.cons.inj same).1 notMinus
  · rfl

/-- A word does not start with a sign. -/
private theorem offset?_of_isRun {letters rest : List Char} (isRun : IsRun isWord letters) :
    offset? (letters ++ rest) = none := by
  obtain ⟨nonempty, consists⟩ := isRun
  cases letters with
  | nil => exact absurd rfl nonempty
  | cons first later =>
      have word : isWord first = true := consists first List.mem_cons_self
      apply offset?_of_no_sign
      · rintro rfl
        exact absurd word (by decide)
      · rintro rfl
        exact absurd word (by decide)

theorem target?_reads : Reads target? WrittenTarget.render WrittenTarget.Fits := by
  intro text target rest
  unfold target? word?
  constructor
  · intro read
    cases signed : offset? text with
    | some found =>
        rw [signed] at read
        obtain ⟨-, -, -, split, fit⟩ := offset?_eq_some_iff.mp (signed.trans read)
        exact ⟨split, fit⟩
    | none =>
        rw [signed] at read
        obtain ⟨⟨letters, behind⟩, word, same⟩ := Option.map_eq_some_iff.mp read
        obtain ⟨rfl, rfl⟩ := Prod.mk.inj same
        exact (run?_reads isWord).eq_some_iff.mp word
  · intro written
    rcases written with ⟨rfl, fit⟩
    cases target with
    | offset negative digits =>
        rw [offset?_eq_some_iff.mpr ⟨negative, digits, rfl, rfl, fit⟩]
        rfl
    | word letters =>
        have read : run? isWord (letters ++ rest) = some (letters, rest) :=
          word?_of_isRun fit.1 fit.2
        rw [WrittenTarget.render, offset?_of_isRun fit.1, read]
        rfl

namespace WrittenTarget

theorem IsWritten.stops_blank {target : WrittenTarget} (written : target.IsWritten)
    (rest : List Char) : Stops isBlank (target.render ++ rest) := by
  cases target with
  | offset negative digits =>
      cases negative with
      | false => exact stops_cons.mpr rfl
      | true => exact stops_cons.mpr rfl
  | word letters => exact IsRun.stops_append written isBlank_of_isWord rest

theorem IsWritten.not_comma {target : WrittenTarget} (written : target.IsWritten)
    (rest : List Char) : after? [','] (target.render ++ rest) = none := by
  apply after?_of_stops
  cases target with
  | offset negative digits =>
      cases negative with
      | false => exact stops_cons.mpr rfl
      | true => exact stops_cons.mpr rfl
  | word letters =>
      have comma : isWord ',' = false := by decide
      exact IsRun.stops_mark written comma rest

end WrittenTarget

/-! ## Arms -/

namespace WrittenArms

/-- The arms are complete: what stands behind them makes them no longer. -/
def Fits : WrittenArms → List Char → Prop
  | .both onPositive beforeComma afterComma onZero, rest =>
      onPositive.IsWritten ∧ Consists isBlank beforeComma ∧ Consists isBlank afterComma ∧
        onZero.Fits rest
  | .zeroOnly afterComma onZero, rest => Consists isBlank afterComma ∧ onZero.Fits rest
  | .positiveOnly onPositive none, rest =>
      onPositive.Fits rest ∧ after? [','] (blanks rest).2 = none
  | .positiveOnly onPositive (some beforeComma), rest =>
      onPositive.IsWritten ∧ Consists isBlank beforeComma ∧ target? (blanks rest).2 = none

end WrittenArms

private theorem comma_ends_blanks (rest : List Char) : Stops isBlank (',' :: rest) :=
  stops_cons.mpr rfl

/-- Before a comma, with or without blanks, every operand is complete. -/
private theorem fits_before_comma {target : WrittenTarget} {beforeComma : List Char}
    (written : target.IsWritten) (blank : Consists isBlank beforeComma) (rest : List Char) :
    target.Fits (beforeComma ++ ',' :: rest) := by
  refine ⟨written, ?_⟩
  cases target with
  | offset negative digits =>
      exact blank.stops_append isDigit_of_isBlank (stops_cons.mpr rfl)
  | word letters =>
      have comma : isWord ',' = false := by decide
      exact blank.stops_append isWord_of_isBlank (stops_cons.mpr comma)

private theorem bothArms?_eq_some_iff {text rest : List Char} {arms : WrittenArms} :
    bothArms? text = some (arms, rest) ↔
      ∃ onPositive beforeComma afterComma onZero,
        arms = .both onPositive beforeComma afterComma onZero ∧ text = arms.render ++ rest ∧
          arms.Fits rest := by
  unfold bothArms?
  rw [target?_reads.bind_eq_some_iff]
  constructor
  · intro read
    rcases read with ⟨onPositive, behind, rfl, positiveFits, read⟩
    rcases before : blanks behind with ⟨beforeComma, tail⟩
    simp only [before] at read
    obtain ⟨afterPositive, comma, read⟩ := after?_bind_eq_some_iff.mp read
    rcases after : blanks afterPositive with ⟨afterComma, last⟩
    simp only [after] at read
    obtain ⟨onZero, remainder, zeroText, zeroFits, returned⟩ :=
      target?_reads.bind_eq_some_iff.mp read
    obtain ⟨rfl, rfl⟩ := Prod.mk.inj (Option.some.inj returned)
    obtain ⟨beforeText, beforeBlank, -⟩ := blanks_eq_iff.mp before
    obtain ⟨afterText, afterBlank, -⟩ := blanks_eq_iff.mp after
    refine ⟨onPositive, beforeComma, afterComma, onZero, rfl, ?_,
      positiveFits.1, beforeBlank, afterBlank, zeroFits⟩
    rw [beforeText, comma, afterText, zeroText]
    simp only [WrittenArms.render, List.append_assoc, List.cons_append, List.nil_append]
  · intro written
    rcases written with ⟨onPositive, beforeComma, afterComma, onZero, rfl, rfl, written,
      beforeBlank, afterBlank, zeroFits⟩
    have before := blanks_eq_iff.mpr
      ⟨rfl, beforeBlank, comma_ends_blanks (afterComma ++ onZero.render ++ rest)⟩
    have after := blanks_eq_iff.mpr ⟨rfl, afterBlank, zeroFits.1.stops_blank rest⟩
    refine ⟨onPositive, beforeComma ++ ',' :: (afterComma ++ onZero.render ++ rest), ?_,
      fits_before_comma written beforeBlank _, ?_⟩
    · simp only [WrittenArms.render, List.append_assoc, List.cons_append]
    · dsimp only
      rw [before]
      refine after?_bind_eq_some_iff.mpr ⟨afterComma ++ onZero.render ++ rest, rfl, ?_⟩
      rw [List.append_assoc, after]
      exact target?_reads.bind_eq_some_iff.mpr ⟨onZero, rest, rfl, zeroFits, rfl⟩

private theorem zeroArm?_eq_some_iff {text rest : List Char} {arms : WrittenArms} :
    zeroArm? text = some (arms, rest) ↔
      ∃ afterComma onZero, arms = .zeroOnly afterComma onZero ∧ text = arms.render ++ rest ∧
        arms.Fits rest := by
  unfold zeroArm?
  rw [after?_bind_eq_some_iff]
  constructor
  · intro read
    rcases read with ⟨behind, rfl, read⟩
    rcases after : blanks behind with ⟨afterComma, last⟩
    simp only [after] at read
    obtain ⟨onZero, remainder, zeroText, zeroFits, returned⟩ :=
      target?_reads.bind_eq_some_iff.mp read
    obtain ⟨rfl, rfl⟩ := Prod.mk.inj (Option.some.inj returned)
    obtain ⟨afterText, afterBlank, -⟩ := blanks_eq_iff.mp after
    refine ⟨afterComma, onZero, rfl, ?_, afterBlank, zeroFits⟩
    rw [afterText, zeroText]
    simp only [WrittenArms.render, List.append_assoc, List.cons_append, List.nil_append]
  · intro written
    rcases written with ⟨afterComma, onZero, rfl, rfl, afterBlank, zeroFits⟩
    have after := blanks_eq_iff.mpr ⟨rfl, afterBlank, zeroFits.1.stops_blank rest⟩
    refine ⟨afterComma ++ (onZero.render ++ rest), ?_, ?_⟩
    · simp only [WrittenArms.render, List.append_assoc, List.cons_append, List.nil_append]
    · dsimp only
      rw [after]
      exact target?_reads.bind_eq_some_iff.mpr ⟨onZero, rest, rfl, zeroFits, rfl⟩

/-- The positive arm alone, whether or not a zero arm stands behind its comma. -/
private theorem positiveArm?_eq_some_iff {text rest : List Char} {arms : WrittenArms} :
    positiveArm? text = some (arms, rest) ↔
      ∃ onPositive comma, arms = .positiveOnly onPositive comma ∧ text = arms.render ++ rest ∧
        match comma with
        | none => onPositive.Fits rest ∧ after? [','] (blanks rest).2 = none
        | some beforeComma => onPositive.IsWritten ∧ Consists isBlank beforeComma := by
  unfold positiveArm?
  rw [target?_reads.bind_eq_some_iff]
  constructor
  · intro read
    rcases read with ⟨onPositive, behind, rfl, positiveFits, read⟩
    rcases before : blanks behind with ⟨beforeComma, tail⟩
    simp only [before] at read
    split at read
    · next remainder comma =>
        obtain ⟨rfl, rfl⟩ := Prod.mk.inj (Option.some.inj read)
        obtain ⟨beforeText, beforeBlank, -⟩ := blanks_eq_iff.mp before
        refine ⟨onPositive, some beforeComma, rfl, ?_, positiveFits.1, beforeBlank⟩
        rw [beforeText, after?_eq_some_iff.mp comma]
        simp only [WrittenArms.render, List.append_assoc]
    · next absent =>
        obtain ⟨rfl, rfl⟩ := Prod.mk.inj (Option.some.inj read)
        refine ⟨onPositive, none, rfl, rfl, positiveFits, ?_⟩
        rw [before]
        exact absent
  · intro written
    rcases written with ⟨onPositive, comma, rfl, rfl, fit⟩
    cases comma with
    | none =>
        refine ⟨onPositive, rest, rfl, fit.1, ?_⟩
        dsimp only
        rw [fit.2]
        rfl
    | some beforeComma =>
        have before := blanks_eq_iff.mpr ⟨rfl, fit.2, comma_ends_blanks rest⟩
        refine ⟨onPositive, beforeComma ++ ',' :: rest, ?_, fits_before_comma fit.1 fit.2 rest, ?_⟩
        · simp only [WrittenArms.render, List.append_assoc, List.cons_append, List.nil_append]
        · dsimp only
          rw [before, after?_eq_some_iff.mpr (rfl : ',' :: rest = [','] ++ rest)]
          rfl

/-- Both arms are read unless the comma or the operand behind it is missing. -/
private theorem bothArms?_eq_none_iff {onPositive : WrittenTarget} {rest : List Char}
    (fit : onPositive.Fits rest) :
    bothArms? (onPositive.render ++ rest) = none ↔
      ∀ behind, (blanks rest).2 = ',' :: behind → target? (blanks behind).2 = none := by
  have unfolded : bothArms? (onPositive.render ++ rest) =
      (after? [','] (blanks rest).2).bind fun behind =>
        (target? (blanks behind).2).bind fun zero =>
          some (.both onPositive (blanks rest).1 (blanks behind).1 zero.1, zero.2) := by
    unfold bothArms?
    rw [target?_reads.complete fit]
    rfl
  rw [unfolded, Option.bind_eq_none_iff]
  constructor
  · intro absent behind comma
    have next := absent behind (after?_eq_some_iff.mpr comma)
    cases zero : target? (blanks behind).2 with
    | none => rfl
    | some found =>
        rw [zero] at next
        cases next
  · intro absent behind comma
    rw [absent behind (after?_eq_some_iff.mp comma)]
    rfl

private theorem zeroArm?_of_isWritten {target : WrittenTarget} (written : target.IsWritten)
    (rest : List Char) : zeroArm? (target.render ++ rest) = none := by
  unfold zeroArm?
  rw [written.not_comma rest]
  rfl

private theorem bothArms?_of_comma (rest : List Char) : bothArms? (',' :: rest) = none := by
  cases both : bothArms? (',' :: rest) with
  | none => rfl
  | some found =>
      obtain ⟨arms, behind⟩ := found
      obtain ⟨onPositive, beforeComma, afterComma, onZero, rfl, split, fit⟩ :=
        bothArms?_eq_some_iff.mp both
      have comma : after? [','] (',' :: rest) = some rest := after?_eq_some_iff.mpr rfl
      simp only [WrittenArms.render, List.append_assoc] at split
      rw [split, fit.1.not_comma] at comma
      cases comma

theorem arms?_reads : Reads arms? WrittenArms.render WrittenArms.Fits := by
  intro text arms rest
  unfold arms?
  constructor
  · intro read
    cases both : bothArms? text with
    | some found =>
        rw [both] at read
        obtain ⟨-, -, -, -, -, split, fit⟩ := bothArms?_eq_some_iff.mp (both.trans read)
        exact ⟨split, fit⟩
    | none =>
        rw [both] at read
        cases zero : zeroArm? text with
        | some found =>
            rw [zero] at read
            obtain ⟨-, -, -, split, fit⟩ := zeroArm?_eq_some_iff.mp (zero.trans read)
            exact ⟨split, fit⟩
        | none =>
            rw [zero] at read
            obtain ⟨onPositive, comma, rfl, rfl, fit⟩ := positiveArm?_eq_some_iff.mp read
            refine ⟨rfl, ?_⟩
            cases comma with
            | none => exact fit
            | some beforeComma =>
                have fits := fits_before_comma fit.1 fit.2 rest
                have before := blanks_eq_iff.mpr ⟨rfl, fit.2, comma_ends_blanks rest⟩
                simp only [WrittenArms.render, List.append_assoc, List.cons_append,
                  List.nil_append] at both
                refine ⟨fit.1, fit.2, (bothArms?_eq_none_iff fits).mp both rest ?_⟩
                rw [before]
  · intro written
    rcases written with ⟨rfl, fit⟩
    cases arms with
    | both onPositive beforeComma afterComma onZero =>
        rw [bothArms?_eq_some_iff.mpr ⟨_, _, _, _, rfl, rfl, fit⟩]
        rfl
    | zeroOnly afterComma onZero =>
        have comma := bothArms?_of_comma (afterComma ++ onZero.render ++ rest)
        rw [show ',' :: (afterComma ++ onZero.render ++ rest) =
          (WrittenArms.zeroOnly afterComma onZero).render ++ rest from rfl] at comma
        rw [comma, zeroArm?_eq_some_iff.mpr ⟨_, _, rfl, rfl, fit⟩]
        rfl
    | positiveOnly onPositive comma =>
        cases comma with
        | none =>
            have positive := positiveArm?_eq_some_iff.mpr ⟨onPositive, none, rfl, rfl, fit⟩
            have absent : bothArms? (onPositive.render ++ rest) = none := by
              refine (bothArms?_eq_none_iff fit.1).mpr ?_
              intro behind comma
              have missing := fit.2
              rw [comma, after?_eq_some_iff.mpr (rfl : ',' :: behind = [','] ++ behind)] at missing
              cases missing
            rw [WrittenArms.render] at positive ⊢
            rw [absent, zeroArm?_of_isWritten fit.1.1, positive]
            rfl
        | some beforeComma =>
            obtain ⟨written, beforeBlank, missing⟩ := fit
            have positive : positiveArm?
                (WrittenArms.render (.positiveOnly onPositive (some beforeComma)) ++ rest) =
                  some (.positiveOnly onPositive (some beforeComma), rest) :=
              positiveArm?_eq_some_iff.mpr
                ⟨onPositive, some beforeComma, rfl, rfl, written, beforeBlank⟩
            have before := blanks_eq_iff.mpr ⟨rfl, beforeBlank, comma_ends_blanks rest⟩
            have absent : bothArms? (onPositive.render ++ (beforeComma ++ ',' :: rest)) = none := by
              refine (bothArms?_eq_none_iff (fits_before_comma written beforeBlank rest)).mpr ?_
              intro behind comma
              rw [before] at comma
              rw [← (List.cons.inj comma).2]
              exact missing
            simp only [WrittenArms.render, List.append_assoc, List.cons_append,
              List.nil_append] at positive ⊢
            rw [absent, zeroArm?_of_isWritten written, positive]
            rfl

namespace WrittenArms

/-- Arms do not start with a blank. -/
theorem Fits.stops_blank {arms : WrittenArms} {rest : List Char} (fit : arms.Fits rest) :
    Stops isBlank (arms.render ++ rest) := by
  cases arms with
  | both onPositive beforeComma afterComma onZero =>
      rw [render, List.append_assoc, List.append_assoc, List.append_assoc]
      exact fit.1.stops_blank _
  | zeroOnly afterComma onZero => exact stops_cons.mpr rfl
  | positiveOnly onPositive comma =>
      cases comma with
      | none => exact fit.1.1.stops_blank rest
      | some beforeComma =>
          rw [render, List.append_assoc, List.append_assoc]
          exact fit.1.stops_blank _

end WrittenArms

/-! ## Arrows -/

/-- An arrow between blanks with a complete operand. -/
def Arrow.Fits {Operand : Type} (fits : Operand → List Char → Prop) (arrow : Arrow Operand)
    (rest : List Char) : Prop :=
  Consists isBlank arrow.before ∧ Consists isBlank arrow.after ∧ fits arrow.operand rest

theorem Arrow.Fits.imp {Operand : Type} {fits : Operand → List Char → Prop}
    {arrow : Arrow Operand} {rest other : List Char} (fit : arrow.Fits fits rest)
    (implies : fits arrow.operand rest → fits arrow.operand other) : arrow.Fits fits other :=
  ⟨fit.1, fit.2.1, implies fit.2.2⟩

theorem arrow?_reads {Operand : Type} {operand? : Reader Operand}
    {render : Operand → List Char} {fits : Operand → List Char → Prop}
    (reads : Reads operand? render fits)
    (startsPlain : ∀ operand rest, fits operand rest → Stops isBlank (render operand ++ rest)) :
    Reads (arrow? operand?) (Arrow.render render) (Arrow.Fits fits) := by
  intro text arrow rest
  unfold arrow?
  constructor
  · intro read
    rcases before : blanks text with ⟨beforeArrow, tail⟩
    simp only [before] at read
    obtain ⟨behind, arrowText, read⟩ := after?_bind_eq_some_iff.mp read
    rcases after : blanks behind with ⟨afterArrow, last⟩
    simp only [after] at read
    obtain ⟨operand, remainder, operandText, fit, returned⟩ := reads.bind_eq_some_iff.mp read
    obtain ⟨rfl, rfl⟩ := Prod.mk.inj (Option.some.inj returned)
    obtain ⟨beforeText, beforeBlank, -⟩ := blanks_eq_iff.mp before
    obtain ⟨afterText, afterBlank, -⟩ := blanks_eq_iff.mp after
    refine ⟨?_, beforeBlank, afterBlank, fit⟩
    rw [beforeText, arrowText, afterText, operandText]
    simp only [Arrow.render, List.append_assoc, List.cons_append, List.nil_append]
  · intro written
    rcases written with ⟨rfl, beforeBlank, afterBlank, fit⟩
    obtain ⟨beforeArrow, afterArrow, operand⟩ := arrow
    have arrowStops : Stops isBlank ('-' :: '>' :: (afterArrow ++ (render operand ++ rest))) :=
      stops_cons.mpr rfl
    have before := blanks_eq_iff.mpr ⟨rfl, beforeBlank, arrowStops⟩
    have after := blanks_eq_iff.mpr ⟨rfl, afterBlank, startsPlain operand rest fit⟩
    simp only [Arrow.render, List.append_assoc, List.cons_append]
    rw [before]
    refine after?_bind_eq_some_iff.mpr ⟨afterArrow ++ (render operand ++ rest), rfl, ?_⟩
    rw [after]
    exact reads.bind_eq_some_iff.mpr ⟨operand, rest, rfl, fit, rfl⟩

theorem targetArrow?_reads :
    Reads (arrow? target?) (Arrow.render WrittenTarget.render) (Arrow.Fits WrittenTarget.Fits) :=
  arrow?_reads target?_reads fun _ rest fit => fit.1.stops_blank rest

theorem armsArrow?_reads :
    Reads (arrow? arms?) (Arrow.render WrittenArms.render) (Arrow.Fits WrittenArms.Fits) :=
  arrow?_reads arms?_reads fun _ _ fit => fit.stops_blank

end CounterMachine.Source
