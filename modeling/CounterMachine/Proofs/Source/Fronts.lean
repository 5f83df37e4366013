import CounterMachine.Proofs.Source.Scanning

/-!
Contract: what is read when the text behind it is cut short.

Owns: that a reader which reads something from a front of a text reads something from the whole
text as well; and hence that an item which fits before a text fits before every front of it,
and so do items in sequence.

Does not own: what is read when more text follows, which can make a word longer.
-/

set_option autoImplicit false

namespace CounterMachine.Source

open Text

/-! ## Readers -/

/-- Where nothing is read from a text, nothing is read from a front of it. -/
def Persists {Result : Type} (read : List Char → Option Result) : Prop :=
  ∀ front text, front <+: text → read text = none → read front = none

section Readers

variable {belongs : Char → Bool} {front text : List Char}

theorem dropWhile_front (isFront : front <+: text) :
    front.dropWhile belongs <+: text.dropWhile belongs := by
  induction front generalizing text with
  | nil => exact List.nil_prefix
  | cons first later inductionHypothesis =>
      obtain ⟨behind, rfl⟩ := isFront
      rw [List.cons_append, List.dropWhile_cons, List.dropWhile_cons]
      split
      · exact inductionHypothesis (List.prefix_append later behind)
      · exact List.prefix_append (first :: later) behind

theorem blanks_front (isFront : front <+: text) : (blanks front).2 <+: (blanks text).2 :=
  dropWhile_front isFront

theorem IsRun.run?_ne_none {run : List Char} (isRun : IsRun belongs run) (rest : List Char) :
    run? belongs (run ++ rest) ≠ none := by
  obtain ⟨nonempty, consists⟩ := isRun
  cases run with
  | nil => exact absurd rfl nonempty
  | cons first later =>
      have inside : belongs first = true := consists first List.mem_cons_self
      simp [run?, inside]

/-- A reader persists if it reads something wherever the text of a value stands. -/
theorem Reads.persists {Value : Type} {reader : Reader Value} {render : Value → List Char}
    {fits : Value → List Char → Prop} (reads : Reads reader render fits)
    (starts : ∀ value rest, fits value rest → ∀ other, reader (render value ++ other) ≠ none) :
    Persists reader := by
  rintro front text ⟨behind, rfl⟩ absent
  cases read : reader front with
  | none => rfl
  | some found =>
      obtain ⟨split, fit⟩ := reads.eq_some_iff.mp read
      rw [split, List.append_assoc] at absent
      exact absurd absent (starts _ _ fit _)

theorem reason?_persists : Persists Item.reason? := by
  apply reason?_reads.persists
  intro reason rest fit other
  rw [reason?_reads.complete fit]
  exact Option.some_ne_none _

end Readers

/-! ## Jump operands -/

theorem WrittenTarget.IsWritten.target?_ne_none {target : WrittenTarget}
    (written : target.IsWritten) (rest : List Char) : target? (target.render ++ rest) ≠ none := by
  cases target with
  | offset negative digits =>
      obtain ⟨pair, read⟩ := Option.ne_none_iff_exists'.mp (IsRun.run?_ne_none written rest)
      cases negative <;> simp [target?, offset?, digits?, render, read]
  | word letters =>
      obtain ⟨pair, read⟩ := Option.ne_none_iff_exists'.mp (IsRun.run?_ne_none written rest)
      simp [target?, word?, render, read]

theorem target?_persists : Persists target? :=
  target?_reads.persists fun _ _ fit => fit.1.target?_ne_none

private theorem arms?_eq_none_iff {text : List Char} :
    arms? text = none ↔
      bothArms? text = none ∧ zeroArm? text = none ∧ positiveArm? text = none := by
  simp only [arms?, Option.orElse_eq_orElse, Option.orElse_eq_or, Option.or_eq_none_iff]

/-- A single arm is read wherever an operand is. -/
private theorem arms?_ne_none_of_target? {text : List Char} (found : target? text ≠ none) :
    arms? text ≠ none := by
  obtain ⟨⟨onPositive, behind⟩, read⟩ := Option.ne_none_iff_exists'.mp found
  have positive : positiveArm? text ≠ none := by
    cases comma : after? [','] (blanks behind).2 <;> simp [positiveArm?, read, comma]
  intro absent
  exact positive (arms?_eq_none_iff.mp absent).2.2

private theorem zeroArm?_ne_none {onZero : WrittenTarget} {afterComma : List Char}
    (blank : Consists isBlank afterComma) (written : onZero.IsWritten) (rest : List Char) :
    zeroArm? (',' :: afterComma ++ onZero.render ++ rest) ≠ none := by
  have blanksEq := blanks_eq_iff.mpr ⟨rfl, blank, written.stops_blank rest⟩
  obtain ⟨pair, read⟩ := Option.ne_none_iff_exists'.mp (written.target?_ne_none rest)
  simp [zeroArm?, after?, blanksEq, read]

theorem arms?_persists : Persists arms? := by
  apply arms?_reads.persists
  intro arms rest fit other
  cases arms with
  | both onPositive beforeComma afterComma onZero =>
      rw [WrittenArms.render, List.append_assoc, List.append_assoc, List.append_assoc]
      exact arms?_ne_none_of_target? (fit.1.target?_ne_none _)
  | zeroOnly afterComma onZero =>
      intro absent
      exact zeroArm?_ne_none fit.1 fit.2.1 other (arms?_eq_none_iff.mp absent).2.1
  | positiveOnly onPositive comma =>
      cases comma with
      | none => exact arms?_ne_none_of_target? (fit.1.1.target?_ne_none _)
      | some beforeComma =>
          rw [WrittenArms.render, List.append_assoc, List.append_assoc]
          exact arms?_ne_none_of_target? (fit.1.target?_ne_none _)

theorem arrow?_persists {Operand : Type} {operand? : Reader Operand} (persists : Persists operand?) :
    Persists (arrow? operand?) := by
  intro front text isFront absent
  cases arrowed : after? ['-', '>'] (blanks front).2 with
  | none => simp [arrow?, arrowed]
  | some behindFront =>
      obtain ⟨more, split⟩ := blanks_front isFront
      rw [after?_eq_some_iff.mp arrowed, List.append_assoc] at split
      have arrowedText := after?_eq_some_iff.mpr split.symm
      have absentText : operand? (blanks (behindFront ++ more)).2 = none := by
        cases read : operand? (blanks (behindFront ++ more)).2 with
        | none => rfl
        | some found => simp [arrow?, arrowedText, read] at absent
      have absentFront := persists _ _ (blanks_front (List.prefix_append _ more)) absentText
      simp [arrow?, arrowed, absentFront]

/-! ## What fits before a front -/

section Fits

variable {front rest : List Char}

theorem WrittenTarget.Fits.of_front {target : WrittenTarget} (fit : target.Fits rest)
    (isFront : front <+: rest) : target.Fits front :=
  ⟨fit.1, fit.2.of_front isFront⟩

theorem WrittenArms.Fits.of_front {arms : WrittenArms} (fit : arms.Fits rest)
    (isFront : front <+: rest) : arms.Fits front := by
  cases arms with
  | both onPositive beforeComma afterComma onZero =>
      obtain ⟨written, beforeBlank, afterBlank, zeroFits⟩ := fit
      exact ⟨written, beforeBlank, afterBlank, zeroFits.of_front isFront⟩
  | zeroOnly afterComma onZero => exact ⟨fit.1, fit.2.of_front isFront⟩
  | positiveOnly onPositive comma =>
      cases comma with
      | none =>
          refine ⟨fit.1.of_front isFront, after?_of_stops ?_⟩
          exact (after?_eq_none_iff.mp fit.2).of_front (blanks_front isFront)
      | some beforeComma =>
          obtain ⟨written, blank, absent⟩ := fit
          exact ⟨written, blank, target?_persists _ _ (blanks_front isFront) absent⟩

/-- By cases on the part that may be missing, which is then missing in the front as well. -/
theorem FitsOption.of_front {Value : Type} {reader : Reader Value}
    {fits : Value → List Char → Prop} (persists : Persists reader)
    (shrinks : ∀ value, fits value rest → fits value front) (isFront : front <+: rest)
    {found : Option Value} (fit : FitsOption reader fits found rest) :
    FitsOption reader fits found front := by
  cases found with
  | none => exact persists front rest isFront fit
  | some value => exact shrinks value fit

/-- An item that fits before a text fits before every front of it. -/
theorem Item.Fits.of_front {item : Item} (fit : item.Fits rest) (isFront : front <+: rest) :
    item.Fits front := by
  cases item with
  | newline => exact fit
  | comment body => exact ⟨fit.1, fit.2.of_front isFront⟩
  | space body => exact ⟨fit.1, fit.2.of_front isFront⟩
  | label name => exact fit
  | trace keyword => exact ⟨fit.1, fit.2.1.of_front isFront, fit.2.2.of_front isFront⟩
  | init keyword beforeRegister register beforeValue digits =>
      obtain ⟨spells, firstBlanks, word, lastBlanks, number, stops⟩ := fit
      exact ⟨spells, firstBlanks, word, lastBlanks, number, stops.of_front isFront⟩
  | inc register jump =>
      obtain ⟨isRun, notTrace, jumpFits⟩ := fit
      refine ⟨isRun, notTrace, jumpFits.of_front (arrow?_persists target?_persists) ?_ isFront⟩
      exact fun _ arrowFits => arrowFits.imp fun fit => fit.of_front isFront
  | dec register jump =>
      obtain ⟨isRun, notTrace, jumpFits⟩ := fit
      refine ⟨isRun, notTrace, jumpFits.of_front (arrow?_persists arms?_persists) ?_ isFront⟩
      exact fun _ arrowFits => arrowFits.imp fun fit => fit.of_front isFront
  | halt keyword reason =>
      cases reason with
      | none =>
          obtain ⟨spells, stops, unmarked, absent⟩ := fit
          exact ⟨spells, stops.of_front isFront, unmarked.of_front isFront,
            reason?_persists front rest isFront absent⟩
      | some pair => exact fit
  | eval keyword beforeDescription description beforeRegister register beforeSign afterSign
      code =>
      obtain ⟨spells, firstBlanks, unquoted, secondBlanks, word, thirdBlanks, fourthBlanks,
        codeStops, unended⟩ := fit
      refine ⟨spells, firstBlanks, unquoted, secondBlanks, word, thirdBlanks, fourthBlanks,
        codeStops.of_front ?_, unended⟩
      obtain ⟨behind, rfl⟩ := isFront
      exact ⟨behind, by simp⟩

theorem ItemsFit.of_front {items : List Item} (fit : ItemsFit items rest)
    (isFront : front <+: rest) : ItemsFit items front := by
  induction items with
  | nil => trivial
  | cons item later inductionHypothesis =>
      have isFrontLater := (List.prefix_append_right_inj (renderItems later)).mpr isFront
      exact ⟨fit.1.of_front isFrontLater, inductionHypothesis fit.2⟩

end Fits

end CounterMachine.Source
