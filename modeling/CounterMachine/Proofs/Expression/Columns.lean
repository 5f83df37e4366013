import CounterMachine.Proofs.Expression.Language
import CounterMachine.Proofs.Expression.ViablePrefix
import CounterMachine.Proofs.Sequencing

/-!
Contract: the column at which a text is refused as an expression.

Owns: that a text which begins with an expression is never missed, that the value of a tree is
never refused for its text, and that the text before the reported column is the beginning of an
expression, and is one if the text begins with one.

Does not own: how far the reader gets. What can be completed is a matter of viable prefixes.
-/

set_option autoImplicit false

namespace CounterMachine

open Text Source

/-! ## Values -/

/-- The computation does not fail for want of a tree. -/
def Parsed {Value : Type} (computed : Except ExpressionError Value) : Prop :=
  ∀ column, computed ≠ .error (.unparsable column)

section Values

variable {First Second : Type}

theorem parsed_ok (value : First) : Parsed (.ok value) :=
  nofun

theorem Parsed.bind {first : Except ExpressionError First}
    {next : First → Except ExpressionError Second} (parsed : Parsed first)
    (parsedNext : ∀ value, Parsed (next value)) : Parsed (first >>= next) := by
  intro column refused
  rcases bind_eq_error.mp refused with here | ⟨value, -, later⟩
  · exact parsed column here
  · exact parsedNext value column later

end Values

theorem BinaryOperator.parsed_apply (left right : Int) (operator : BinaryOperator) :
    Parsed (operator.apply left right) := by
  intro column refused
  cases operator with
  | plus => cases refused
  | minus => cases refused
  | times => cases refused
  | «over» =>
      rw [apply] at refused
      split at refused <;> cases refused
  | modulo =>
      rw [apply] at refused
      split at refused <;> cases refused

theorem BinaryOperator.parsed_applyAll (left : Int) (operands : List (BinaryOperator × Int)) :
    Parsed (applyAll left operands) := by
  induction operands generalizing left with
  | nil => exact parsed_ok left
  | cons operand later inductionHypothesis =>
      exact (parsed_apply left operand.2 operand.1).bind inductionHypothesis

namespace Expression

section Values

variable (limit : DigitLimit) (registers : String → Int)

mutual

theorem parsed_value : (tree : Expression) → Parsed (tree.value limit registers)
  | .literal digits => by
      intro column refused
      rw [value] at refused
      split at refused <;> cases refused
  | .register name => by
      rw [value]
      exact parsed_ok _
  | .negation operand => by
      rw [value]
      exact (parsed_value operand).bind fun _ => parsed_ok _
  | .chain first others => by
      rw [value]
      exact (parsed_value first).bind fun _ => (parsed_operandValues others).bind fun _ =>
        BinaryOperator.parsed_applyAll _ _
  | .call function first others => by
      rw [value]
      refine (parsed_value first).bind fun _ => (parsed_argumentValues others).bind fun _ => ?_
      intro column refused
      split at refused <;> cases refused

theorem parsed_operandValues : (others : List (BinaryOperator × Expression)) →
    Parsed (operandValues limit registers others)
  | [] => by
      rw [operandValues]
      exact parsed_ok _
  | (operator, operand) :: later => by
      rw [operandValues]
      exact (parsed_value operand).bind fun _ => (parsed_operandValues later).bind fun _ =>
        parsed_ok _

theorem parsed_argumentValues : (others : List Expression) →
    Parsed (argumentValues limit registers others)
  | [] => by
      rw [argumentValues]
      exact parsed_ok _
  | argument :: later => by
      rw [argumentValues]
      exact (parsed_value argument).bind fun _ => (parsed_argumentValues later).bind fun _ =>
        parsed_ok _

end

end Values

variable {limit : DigitLimit} {registers : String → Int} {text : String} {column : Nat}

/-- An evaluation that is refused for its text is refused by the parser. -/
theorem parse_of_evaluate_unparsable
    (refused : evaluate limit registers text = .error (.unparsable column)) :
    parse text = .error (.unparsable column) := by
  rcases bind_eq_error.mp refused with unparsed | ⟨tree, -, later⟩
  · exact unparsed
  · refine absurd later (((parsed_value limit registers tree).bind fun number => ?_) column)
    intro other negative
    split at negative <;> cases negative

/-! ## Texts that begin with a phrase -/

section Beginnings

variable {size room reach : Nat}

/-- By induction on the derivation: where a text begins with a phrase, the first operand of that
is found, whatever stands behind the phrase. -/
theorem operand_ne_stuck {phrase : Phrase} {text rest : List Char} (derives : phrase.Derives text)
    {levels position : Nat} (short : (text ++ rest).length ≤ size) :
    operand size levels room ⟨position, text ++ rest⟩ ≠ .stuck reach := by
  intro stuck
  obtain ⟨below, rfl⟩ : ∃ below, levels = below + 1 := by
    cases levels with
    | zero => cases stuck
    | succ below => exact ⟨below, rfl⟩
  induction derives generalizing below room position rest with
  | literal isRun =>
      obtain ⟨nonempty, consists⟩ := isRun
      obtain ⟨first, later, rfl⟩ := List.exists_cons_of_ne_nil nonempty
      rw [List.cons_append, operand_of_isDigit (consists first List.mem_cons_self)] at stuck
      cases stuck
  | identifier isIdentifier =>
      obtain ⟨first, later, rfl, starts⟩ := isIdentifier.exists_cons
      exact operand_ne_stuck_of_startsName starts reach stuck
  | call isIdentifier =>
      obtain ⟨first, later, rfl, starts⟩ := isIdentifier.exists_cons
      exact operand_ne_stuck_of_startsName starts reach stuck
  | @negation term gap text isGap operand inductionHypothesis =>
      rw [List.cons_append, operand_of_minus, map_eq_stuck] at stuck
      have missed := enter_eq_stuck stuck
      rw [Cursor.skip, Cursor.pass_eq (List.append_assoc gap text rest) isGap
        (operand.stops_gap rest)] at missed
      cases below with
      | zero => cases missed
      | succ below =>
          refine inductionHypothesis ?_ below missed
          simp only [List.cons_append, List.length_cons, List.length_append] at short ⊢
          omega
  | @parentheses term before text after isGap sum isGapAfter =>
      rw [List.cons_append, operand_of_parenthesis] at stuck
      obtain ⟨ends, followed⟩ := exists_followed rest
      have accepts := Accepts.enter (fun room =>
        ((hereditary_accepts size).sum_holds sum below room).skip isGap sum.stops_gap) 5 room
      let inside : Cursor := ⟨position + 1, before ++ text ++ after ++ [')'] ++ rest⟩
      have insideShort : inside.text.length ≤ size := Nat.le_of_lt short
      have closes := accepts.closed (by decide) isGapAfter (rfl : inside.text = _) followed
        insideShort
      simp only [inside, stuck] at closes
      obtain ⟨value, final, further, read, -⟩ := closes (by
        intro deep
        cases deep)
      cases read
  | factor operand inductionHypothesis => exact inductionHypothesis short below stuck
  | summand product inductionHypothesis => exact inductionHypothesis short below stuck
  | argument sum inductionHypothesis => exact inductionHypothesis short below stuck
  | multiplied product isGap sign isGapAfter operand inductionHypothesis
  | added sum isGap sign isGapAfter product inductionHypothesis
  | listed arguments isGap isGapAfter sum inductionHypothesis =>
      rw [List.append_assoc] at short stuck
      exact inductionHypothesis short below stuck

/-- A sum is missed only where its first operand is. -/
theorem sum_eq_stuck {operand : Nat → Cursor → Attempt Expression} {cursor : Cursor}
    (stuck : sum operand size room cursor = .stuck reach) : operand room cursor = .stuck reach :=
  chainOf_eq_stuck (map_eq_stuck.mp (chainOf_eq_stuck (map_eq_stuck.mp stuck)))

end Beginnings

/-! ## Columns -/

/-- A place behind the start of a text is told by its position. -/
theorem Cursor.Leads.take_position {text between : List Char} {later : Cursor}
    (leads : Cursor.Leads ⟨0, text⟩ between later) :
    later.position ≤ text.length ∧ text.take later.position = between := by
  have split : text = between ++ later.text := leads.text
  have position := leads.position
  rw [Nat.zero_add] at position
  rw [split, position]
  exact ⟨by simp, List.take_left⟩

/-- A text that is refused ends before the column in the beginning of an expression. If no operand
was found, no front of the text is an expression, and otherwise the text up to the column is. -/
theorem parse_eq_unparsable (refused : parse text = .error (.unparsable column)) :
    ∃ reach, column = reach + 1 ∧
      Cursor.Reaches (fun whole => ∃ term : Term, term.SpelledBy whole) ⟨0, text.toList⟩ reach ∧
      ((∃ front, front <+: text.toList ∧ ∃ term : Term, term.SpelledBy front) →
        ∃ term : Term, term.SpelledBy (text.toList.take reach)) := by
  obtain ⟨gap, isGap, leads⟩ := Cursor.exists_leads_skip ⟨0, text.toList⟩
  have viable := sum_viable (operand_sound text.toList.length nestingLimit)
    (operand_viable text.toList.length nestingLimit) text.toList.length nestingLimit
    (Cursor.skip ⟨0, text.toList⟩)
  unfold parse at refused
  simp only at refused
  split at refused
  · cases refused
  · next reach stuck =>
    cases refused
    rw [stuck] at viable
    have reaches : Cursor.Reaches (Spells .sum) (Cursor.skip ⟨0, text.toList⟩) reach := viable
    refine ⟨reach, rfl, reaches.append leads fun body ⟨term, derives⟩ => ?_, ?_⟩
    · exact ⟨term, gap, body, [], (List.append_nil _).symm, isGap, List.forall_mem_nil _, derives⟩
    · rintro ⟨_, ⟨rest, same⟩, term, before, body, after, rfl, isGapBefore, -, derives⟩
      have start : text.toList = before ++ (body ++ (after ++ rest)) := by
        rw [← same]
        simp only [List.append_assoc]
      have missed := sum_eq_stuck stuck
      rw [Cursor.skip, Cursor.pass_eq start isGapBefore (derives.stops_gap _)] at missed
      refine absurd missed (operand_ne_stuck derives ?_)
      simp only [start, List.length_append]
      omega
  · next tree rest reach read =>
    split at refused
    · cases refused
    · cases refused
      rw [read] at viable
      obtain ⟨⟨body, leadsBody⟩, -⟩ := viable
      obtain ⟨_, same, term, derives, -⟩ :=
        sum_sound _ (operand_sound _ nestingLimit) nestingLimit read
      cases leadsBody.unique same
      obtain ⟨after, isGapAfter, leadsAfter⟩ := rest.exists_leads_skip
      have leadsAll := (leads.trans leadsBody).trans leadsAfter
      have spelled : ∃ term : Term, term.SpelledBy (gap ++ body ++ after) :=
        ⟨term, gap, body, after, rfl, isGap, isGapAfter, derives⟩
      refine ⟨rest.skip.position, rfl, ⟨_, rest.skip, [], leadsAll, rfl, ?_⟩, fun _ => ?_⟩
      · rwa [List.append_nil]
      · rwa [leadsAll.take_position.2]

private theorem head?_append {front : String} {letter : Char}
    (starts : front.toList.head? = some letter) (rest : String) :
    (front ++ rest).toList.head? = some letter := by
  rw [String.toList_append, List.head?_append, starts]
  rfl

/-- Messages are told from that of an unparsable text by their first letter. -/
private theorem head?_message (text : String) (error : ExpressionError) :
    (error.message text).toList.head? = some 'c' ↔ ∃ column, error = .unparsable column := by
  have other {letter : Char} (starts : (error.message text).toList.head? = some letter)
      (different : letter ≠ 'c') (apart : ∀ column, error ≠ .unparsable column) :
      (error.message text).toList.head? = some 'c' ↔ ∃ column, error = .unparsable column := by
    rw [starts, Option.some.injEq]
    exact iff_of_false different fun ⟨column, same⟩ => apart column same
  cases error with
  | unparsable column =>
      exact iff_of_true (head?_append (head?_append (head?_append rfl _) _) _) ⟨column, rfl⟩
  | tooDeep => exact other (head?_append (head?_append rfl _) _) (by decide) nofun
  | literalTooLong digits => exact other (head?_append (head?_append rfl _) _) (by decide) nofun
  | divisionByZero => exact other (head?_append rfl _) (by decide) nofun
  | unknownFunction name => exact other (head?_append rfl _) (by decide) nofun
  | negativeValue => exact other (head?_append (head?_append rfl _) _) (by decide) nofun

/-- The message that names a column is that of a text which is refused at this column, and of no
other error. -/
theorem message_eq_unparsable_iff {error : ExpressionError} :
    error.message text =
        "cannot parse expression " ++ quoted text ++ " at column " ++ decimal column ↔
      error = .unparsable column := by
  constructor
  · intro said
    obtain ⟨other, rfl⟩ := (head?_message text error).mp
      (said ▸ head?_append (head?_append (head?_append rfl _) _) _)
    rw [decimal_natCast_inj.mp ((String.append_right_inj _).mp said)]
  · rintro rfl
    rfl

/-- The column at which an expression is refused is one of the text, or the one behind it. What
stands before it can be completed to an expression; and if an expression stands at the beginning
of the text, what stands before the column is an expression itself. -/
theorem evaluate_column_viable
    (refused : evaluate limit registers text = .error (.unparsable column)) :
    1 ≤ column ∧ column ≤ text.toList.length + 1 ∧
      (∃ more, ∃ term : Term, term.SpelledBy (text.toList.take (column - 1) ++ more)) ∧
      ((∃ front, front <+: text.toList ∧ ∃ term : Term, term.SpelledBy front) →
        ∃ term : Term, term.SpelledBy (text.toList.take (column - 1))) := by
  obtain ⟨_, rfl, ⟨seen, place, more, leads, rfl, completed⟩, trailing⟩ :=
    parse_eq_unparsable (parse_of_evaluate_unparsable refused)
  obtain ⟨inside, taken⟩ := leads.take_position
  refine ⟨Nat.le_add_left 1 _, Nat.succ_le_succ inside, ⟨more, ?_⟩, trailing⟩
  rwa [Nat.add_sub_cancel, taken]

/-- Of an unclosed parenthesis all that there is can be completed; of an unclosed call the name
is an expression, and what follows it is refused. -/
theorem evaluate_column_viable_unclosed :
    (evaluate .standard (fun _ => 0) "(1 + min(3, " = .error (.unparsable 13) ∧
      ∃ more, ∃ term : Term, term.SpelledBy ("(1 + min(3, ".toList ++ more)) ∧
    (evaluate .standard (fun _ => 0) "max(1, (2 * " = .error (.unparsable 4) ∧
      ∃ term : Term, term.SpelledBy "max".toList) := by
  have openGroup : evaluate .standard (fun _ => 0) "(1 + min(3, " = .error (.unparsable 13) := by
    decide
  have openCall : evaluate .standard (fun _ => 0) "max(1, (2 * " = .error (.unparsable 4) := by
    decide
  obtain ⟨-, -, completed, -⟩ := evaluate_column_viable openGroup
  obtain ⟨-, -, -, trailing⟩ := evaluate_column_viable openCall
  have name : IsIdentifier ['m', 'a', 'x'] :=
    ⟨⟨'m', rfl, rfl⟩, List.all_iff_forall_prop.mp (by decide)⟩
  have register : (Term.identifier ['m', 'a', 'x']).SpelledBy ['m', 'a', 'x'] :=
    ⟨[], ['m', 'a', 'x'], [], rfl, List.forall_mem_nil _, List.forall_mem_nil _,
      .summand (.factor (.identifier name))⟩
  have begins : ['m', 'a', 'x'] <+: "max(1, (2 * ".toList := ⟨_, rfl⟩
  exact ⟨⟨openGroup, completed⟩, openCall, trailing ⟨_, begins, _, register⟩⟩

end Expression

end CounterMachine
