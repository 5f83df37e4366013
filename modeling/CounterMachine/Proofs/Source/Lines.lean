import CounterMachine.Proofs.Source.Fronts

/-!
Contract: texts that are parsed line by line.

Owns: that no item but a line end ends with one; that items in front of a line end are the same
whatever stands behind it; and that a text behind whole lines is parsed as it is alone, with its
tokens and its errors so many lines further down.

Does not own: the lines of quotations and code, which may go over several.

## Why a line end separates

Only quotations and code go on behind the line that they start on. A reader that fails in the
part of its text before the line end fails there for good, apart from the reason of a halt, of
which the closing mark may be missing. But then its opening mark is left over, with which no item
starts, so that the text before the line end is not parsed alone.
-/

set_option autoImplicit false

namespace CounterMachine

open Text Source

namespace Source

/-! ## Texts on one line -/

section OneLine

theorem Consists.not_mem {belongs : Char → Bool} {run : List Char} {mark : Char}
    (consists : Consists belongs run) (outside : belongs mark = false) : mark ∉ run := by
  intro member
  rw [consists mark member] at outside
  cases outside

private theorem isBlank_newline : isBlank '\n' = false := by
  decide

private theorem oneLine_of_blank {run : List Char} (blank : Consists isBlank run) : '\n' ∉ run :=
  blank.not_mem isBlank_newline

private theorem oneLine_of_word {run : List Char} (word : Consists isWord run) : '\n' ∉ run :=
  word.not_mem (by decide)

private theorem oneLine_of_digits {run : List Char} (digits : Consists Char.isDigit run) :
    '\n' ∉ run :=
  digits.not_mem (by decide)

theorem WrittenTarget.IsWritten.oneLine {target : WrittenTarget} (written : target.IsWritten) :
    '\n' ∉ target.render := by
  cases target with
  | offset negative digits =>
      have digitsOneLine := oneLine_of_digits written.2
      cases negative <;> simpa [render] using digitsOneLine
  | word letters => exact oneLine_of_word written.2

theorem WrittenArms.Fits.oneLine {arms : WrittenArms} {rest : List Char} (fit : arms.Fits rest) :
    '\n' ∉ arms.render := by
  cases arms with
  | both onPositive beforeComma afterComma onZero =>
      obtain ⟨positiveWritten, beforeBlank, afterBlank, zeroFits⟩ := fit
      simp [render, positiveWritten.oneLine, oneLine_of_blank beforeBlank,
        oneLine_of_blank afterBlank, zeroFits.1.oneLine]
  | zeroOnly afterComma onZero =>
      simp [render, oneLine_of_blank fit.1, fit.2.1.oneLine]
  | positiveOnly onPositive comma =>
      cases comma with
      | none => exact fit.1.1.oneLine
      | some beforeComma => simp [render, fit.1.oneLine, oneLine_of_blank fit.2.1]

theorem Arrow.Fits.oneLine {Operand : Type} {render : Operand → List Char}
    {fits : Operand → List Char → Prop} {arrow : Arrow Operand} {rest : List Char}
    (fit : arrow.Fits fits rest) (operandOneLine : '\n' ∉ render arrow.operand) :
    '\n' ∉ arrow.render render := by
  simp [Arrow.render, oneLine_of_blank fit.1, oneLine_of_blank fit.2.1, operandOneLine]

end OneLine

/-! ## Before a line end -/

section BeforeLineEnd

variable {front rest : List Char}

/-- A text on one line at the front of a text stands before the first line end. -/
theorem before_lineEnd {written behind : List Char} (oneLine : '\n' ∉ written)
    (same : written ++ behind = front ++ '\n' :: rest) :
    ∃ middle, front = written ++ middle ∧ behind = middle ++ '\n' :: rest := by
  rcases List.append_eq_append_iff.mp same with ⟨middle, split, tail⟩ | ⟨middle, split, tail⟩
  · exact ⟨middle, split, tail⟩
  · cases middle with
    | nil => exact ⟨[], by simpa using split.symm, by simpa using tail.symm⟩
    | cons first later =>
        obtain ⟨rfl, -⟩ := List.cons.inj tail
        exact absurd (by simp [split]) oneLine

theorem Stops.append_cons {belongs : Char → Bool} {mark : Char} (stops : Stops belongs front)
    (outside : belongs mark = false) (rest : List Char) : Stops belongs (front ++ mark :: rest) := by
  cases front with
  | nil => exact stops_cons.mpr outside
  | cons first later => exact stops_cons.mpr (stops_cons.mp stops)

/-- Only the next character counts. -/
theorem stops_append_cons {belongs : Char → Bool} {mark : Char} {behind other : List Char}
    (stops : Stops belongs (front ++ mark :: behind)) :
    Stops belongs (front ++ mark :: other) := by
  cases front with
  | nil => exact stops_cons.mpr (stops_cons.mp stops)
  | cons first later => exact stops_cons.mpr (stops_cons.mp stops)

theorem blanks_before_lineEnd (front rest : List Char) :
    (blanks (front ++ '\n' :: rest)).2 = (blanks front).2 ++ '\n' :: rest := by
  obtain ⟨split, blank, stops⟩ := blanks_eq_iff.mp (Prod.eta (blanks front)).symm
  have read := blanks_eq_iff.mpr ⟨rfl, blank, stops.append_cons isBlank_newline rest⟩
  rw [← List.append_assoc, ← split] at read
  rw [read]

/-- Where nothing is read before a line end, nothing is read when more lines follow. -/
theorem Reads.none_past_lineEnd {Value : Type} {reader : Reader Value}
    {render : Value → List Char} {fits : Value → List Char → Prop}
    (reads : Reads reader render fits)
    (shrinks : ∀ value front rest, fits value rest → front <+: rest → fits value front)
    (oneLine : ∀ value rest, fits value rest → '\n' ∉ render value)
    (absent : reader (front ++ ['\n']) = none) : reader (front ++ '\n' :: rest) = none := by
  cases read : reader (front ++ '\n' :: rest) with
  | none => rfl
  | some found =>
      obtain ⟨split, fit⟩ := reads.eq_some_iff.mp read
      obtain ⟨middle, rfl, behind⟩ := before_lineEnd (oneLine _ _ fit) split.symm
      have isFront : middle ++ ['\n'] <+: found.2 := ⟨rest, by rw [behind]; simp⟩
      rw [List.append_assoc, reads.complete (shrinks _ _ _ fit isFront)] at absent
      cases absent

theorem FitsOption.past_lineEnd {Value : Type} {reader : Reader Value}
    {render : Value → List Char} {fits : Value → List Char → Prop}
    (reads : Reads reader render fits)
    (shrinks : ∀ value front rest, fits value rest → front <+: rest → fits value front)
    (oneLine : ∀ value rest, fits value rest → '\n' ∉ render value)
    (grows : ∀ value, fits value (front ++ ['\n']) → fits value (front ++ '\n' :: rest))
    {found : Option Value} (fit : FitsOption reader fits found (front ++ ['\n'])) :
    FitsOption reader fits found (front ++ '\n' :: rest) := by
  cases found with
  | none => exact reads.none_past_lineEnd shrinks oneLine fit
  | some value => exact grows value fit

theorem WrittenTarget.Fits.past_lineEnd {target : WrittenTarget}
    (fit : target.Fits (front ++ ['\n'])) : target.Fits (front ++ '\n' :: rest) :=
  ⟨fit.1, stops_append_cons fit.2⟩

theorem WrittenArms.Fits.past_lineEnd {arms : WrittenArms} (fit : arms.Fits (front ++ ['\n'])) :
    arms.Fits (front ++ '\n' :: rest) := by
  cases arms with
  | both onPositive beforeComma afterComma onZero =>
      obtain ⟨written, beforeBlank, afterBlank, zeroFits⟩ := fit
      exact ⟨written, beforeBlank, afterBlank, zeroFits.past_lineEnd⟩
  | zeroOnly afterComma onZero => exact ⟨fit.1, fit.2.past_lineEnd⟩
  | positiveOnly onPositive comma =>
      cases comma with
      | none =>
          obtain ⟨positiveFits, noComma⟩ := fit
          refine ⟨positiveFits.past_lineEnd, after?_of_stops ?_⟩
          rw [after?_eq_none_iff, blanks_before_lineEnd] at noComma
          rw [blanks_before_lineEnd]
          exact stops_append_cons noComma
      | some beforeComma =>
          obtain ⟨written, blank, absent⟩ := fit
          refine ⟨written, blank, ?_⟩
          rw [blanks_before_lineEnd] at absent ⊢
          exact target?_reads.none_past_lineEnd (fun _ _ _ fit isFront => fit.of_front isFront)
            (fun _ _ fit => fit.1.oneLine) absent

/-- An item that fits before a text which ends with a line end fits when more lines follow. Only
the reason of a halt could begin before the line end and be closed behind it. -/
theorem Item.Fits.past_lineEnd {item : Item} (fit : item.Fits (front ++ ['\n']))
    (noReason : Item.reason? (front ++ '\n' :: rest) = none) :
    item.Fits (front ++ '\n' :: rest) := by
  cases item with
  | newline => exact fit
  | comment body => exact ⟨fit.1, stops_append_cons fit.2⟩
  | space body => exact ⟨fit.1, stops_append_cons fit.2⟩
  | label name => exact fit
  | trace keyword =>
      exact ⟨fit.1, stops_append_cons fit.2.1, stops_append_cons fit.2.2⟩
  | init keyword beforeRegister register beforeValue digits =>
      obtain ⟨spells, firstBlanks, word, lastBlanks, number, stops⟩ := fit
      exact ⟨spells, firstBlanks, word, lastBlanks, number, stops_append_cons stops⟩
  | inc register jump =>
      obtain ⟨isRun, notTrace, jumpFits⟩ := fit
      refine ⟨isRun, notTrace, jumpFits.past_lineEnd targetArrow?_reads ?_ ?_ ?_⟩
      · exact fun _ _ _ arrowFits isFront => arrowFits.imp fun fit => fit.of_front isFront
      · exact fun _ _ arrowFits => arrowFits.oneLine arrowFits.2.2.1.oneLine
      · exact fun _ arrowFits => arrowFits.imp fun fit => fit.past_lineEnd
  | dec register jump =>
      obtain ⟨isRun, notTrace, jumpFits⟩ := fit
      refine ⟨isRun, notTrace, jumpFits.past_lineEnd armsArrow?_reads ?_ ?_ ?_⟩
      · exact fun _ _ _ arrowFits isFront => arrowFits.imp fun fit => fit.of_front isFront
      · exact fun _ _ arrowFits => arrowFits.oneLine arrowFits.2.2.oneLine
      · exact fun _ arrowFits => arrowFits.imp fun fit => fit.past_lineEnd
  | halt keyword reason =>
      cases reason with
      | none =>
          obtain ⟨spells, stops, unmarked, -⟩ := fit
          exact ⟨spells, stops_append_cons stops, stops_append_cons unmarked, noReason⟩
      | some pair => exact fit
  | eval keyword beforeDescription description beforeRegister register beforeSign afterSign
      code =>
      obtain ⟨spells, firstBlanks, unquoted, secondBlanks, word, thirdBlanks, fourthBlanks,
        codeStops, unended⟩ := fit
      exact ⟨spells, firstBlanks, unquoted, secondBlanks, word, thirdBlanks, fourthBlanks,
        stops_append_cons codeStops, unended⟩

end BeforeLineEnd

/-! ## Whole lines -/

/-- The text is empty or ends with a line end. -/
def WholeLines (text : List Char) : Prop :=
  ∀ last ∈ text.getLast?, last = '\n'

theorem wholeLines_iff {text : List Char} :
    WholeLines text ↔ text = [] ∨ ∃ front, text = front ++ ['\n'] := by
  rcases List.eq_nil_or_concat text with rfl | ⟨front, last, rfl⟩
  · simp [WholeLines]
  · simp [WholeLines]

theorem WholeLines.of_append {first second : List Char} (whole : WholeLines (first ++ second)) :
    WholeLines second := by
  intro last isLast
  apply whole
  rw [List.getLast?_append, isLast]
  rfl

/-- Only a line end ends with one. -/
theorem Item.Fits.eq_newline {item : Item} {rest front : List Char} (fit : item.Fits rest)
    (ends : item.render = front ++ ['\n']) : item = .newline := by
  have member : '\n' ∈ item.render := by simp [ends]
  have last {others : List Char} {mark : Char} (same : others ++ [mark] = front ++ ['\n']) :
      mark = '\n' := by
    simpa using (List.append_inj' same rfl).2
  cases item with
  | newline => rfl
  | comment body => simp [render, fit.1] at member
  | space body => exact absurd member (Consists.not_mem fit.1.2 (by decide))
  | label name => cases last ends
  | trace keyword => exact absurd member (oneLine_of_word fit.1.1.2)
  | init keyword beforeRegister register beforeValue digits =>
      obtain ⟨spells, firstBlanks, word, lastBlanks, number, -⟩ := fit
      simp [render, oneLine_of_word spells.1.2, oneLine_of_blank firstBlanks.2,
        oneLine_of_word word.2, oneLine_of_blank lastBlanks.2,
        oneLine_of_digits number.2] at member
  | inc register jump =>
      obtain ⟨isRun, -, jumpFits⟩ := fit
      cases jump with
      | none => cases last ends
      | some arrow =>
          have jumpOneLine := jumpFits.oneLine jumpFits.2.2.1.oneLine
          simp [render, oneLine_of_word isRun.2, jumpOneLine] at member
  | dec register jump =>
      obtain ⟨isRun, -, jumpFits⟩ := fit
      cases jump with
      | none => cases last ends
      | some arrow =>
          have jumpOneLine := jumpFits.oneLine jumpFits.2.2.oneLine
          simp [render, oneLine_of_word isRun.2, jumpOneLine] at member
  | halt keyword reason =>
      cases reason with
      | none => exact absurd member (oneLine_of_word fit.1.1.2)
      | some pair =>
          rw [render, renderQuotation, ← List.append_assoc] at ends
          cases last ends
  | eval keyword beforeDescription description beforeRegister register beforeSign afterSign
      code =>
      simp only [render] at ends
      cases last ends

theorem ItemsFit.stops_quotation {items : List Item} {rest : List Char}
    (fit : ItemsFit items rest) : Stops (· == '"') (renderItems items) := by
  cases items with
  | nil => exact stops_nil
  | cons item later => exact fit.1.stops_quotation (renderItems later)

/-- Blanks before a quotation mark would be read as white space, and the mark would be left. -/
theorem ItemsFit.not_opened {items : List Item} (fit : ItemsFit items []) {gap : List Char}
    (isRun : IsRun isBlank gap) (behind : List Char) :
    renderItems items ≠ gap ++ '"' :: behind := by
  intro opened
  have gapFits : (Item.space gap).Fits ('"' :: behind) := by
    refine ⟨⟨isRun.1, fun character inGap => ?_⟩, stops_cons.mpr (by decide)⟩
    simp [isSpace, isRun.2 character inGap]
  have gapRead : Item.read? (gap ++ '"' :: behind) = some (.space gap, '"' :: behind) :=
    Item.read?_reads.complete gapFits
  cases items with
  | nil => simp at opened
  | cons item later =>
      have itemFits := fit.1
      rw [List.append_nil] at itemFits
      have itemRead := Item.read?_reads.complete itemFits
      rw [← renderItems_cons, opened, gapRead] at itemRead
      obtain ⟨-, left⟩ := Prod.mk.inj (Option.some.inj itemRead)
      have stops := fit.2.stops_quotation
      rw [← left, stops_cons, beq_self_eq_true] at stops
      cases stops

/-- Where items end with a line end, no reason is read that goes on behind it. -/
theorem ItemsFit.no_reason {items : List Item} {front rest : List Char}
    (fit : ItemsFit items []) (ends : renderItems items = front ++ ['\n']) :
    Item.reason? (front ++ '\n' :: rest) = none := by
  cases read : Item.reason? (front ++ '\n' :: rest) with
  | none => rfl
  | some found =>
      exfalso
      obtain ⟨⟨gap, body⟩, behind⟩ := found
      obtain ⟨split, isRun, -⟩ := reason?_reads.eq_some_iff.mp read
      have opened : gap ++ ['"'] ++ (body ++ '"' :: behind) = front ++ '\n' :: rest := by
        rw [split]
        simp [renderQuotation]
      have oneLine : '\n' ∉ gap ++ ['"'] := by
        simp [oneLine_of_blank isRun.2]
      obtain ⟨middle, rfl, -⟩ := before_lineEnd oneLine opened
      apply fit.not_opened isRun (middle ++ ['\n'])
      rw [ends, List.append_assoc, List.append_assoc]
      rfl

/-- By induction on the items: each fits before the items behind it, followed by more lines. -/
theorem ItemsFit.past_lineEnd {items : List Item} (fit : ItemsFit items [])
    (whole : WholeLines (renderItems items)) (rest : List Char) : ItemsFit items rest := by
  induction items with
  | nil => trivial
  | cons item later inductionHypothesis =>
      obtain ⟨itemFits, laterFit⟩ := fit
      rw [renderItems_cons] at whole
      refine ⟨?_, inductionHypothesis laterFit whole.of_append⟩
      rw [List.append_nil] at itemFits
      rcases wholeLines_iff.mp whole.of_append with empty | ⟨front, ends⟩
      · rw [empty, List.append_nil] at whole
        obtain ⟨front, ends⟩ := (wholeLines_iff.mp whole).resolve_left itemFits.render_ne_nil
        rw [itemFits.eq_newline ends]
        trivial
      · rw [ends] at itemFits
        rw [ends, List.append_assoc]
        exact itemFits.past_lineEnd (laterFit.no_reason ends)

/-- Behind whole lines, scanning goes on as if it started there. -/
theorem scan_append {items : List Item} (fit : ItemsFit items [])
    (whole : WholeLines (renderItems items)) (second : List Char) :
    scan (renderItems items ++ second) = (items ++ (scan second).1, (scan second).2) := by
  obtain ⟨split, laterFit, stuck⟩ := scan_eq_iff.mp (Prod.eta (scan second)).symm
  apply scan_eq_iff.mpr
  refine ⟨?_, itemsFit_append.mpr ⟨fit.past_lineEnd whole _, laterFit⟩, stuck⟩
  rw [renderItems_append, List.append_assoc, ← split]

end Source

/-! ## Lines further down -/

def Token.movedDown {Jump : Type} (lines : Nat) (token : Token Jump) : Token Jump :=
  token.atLine (token.line + lines)

def ParseError.movedDown (lines : Nat) (error : ParseError) : ParseError :=
  { error with line := error.line + lines }

namespace Source

theorem Item.token?_movedDown (item : Item) (line : Int) (lines : Nat) :
    item.token? (line + lines) = (item.token? line).map (Token.movedDown lines) := by
  cases found : item.token? line with
  | none =>
      rcases Item.token?_eq_none found with rfl | ⟨body, rfl⟩ | ⟨body, rfl⟩ <;> rfl
  | some token =>
      obtain ⟨-, stands, again⟩ := Item.token?_eq_some found
      rw [again, Option.map_some, Token.movedDown, stands]

/-- What becomes of the items does not depend on the line that they start on. -/
theorem tokensFrom_movedDown (limit : DigitLimit) (file : String) (line lines : Nat)
    (items : List Item) :
    tokensFrom limit file (line + lines) items =
      match tokensFrom limit file line items with
      | .ok tokens => .ok (tokens.map (Token.movedDown lines))
      | .error error => .error (error.movedDown lines) := by
  induction items generalizing line with
  | nil => rfl
  | cons item later inductionHypothesis =>
      rw [tokensFrom, tokensFrom]
      cases item.literals.find? fun literal => !limit.admits literal.digits.length with
      | some literal => rfl
      | none =>
          dsimp only
          rw [Nat.add_right_comm, inductionHypothesis, Int.natCast_add, item.token?_movedDown]
          cases tokensFrom limit file (line + newlines item.render) later with
          | error error => rfl
          | ok tokens => cases item.token? line <;> rfl

theorem tokensFrom_append {limit : DigitLimit} {file : String} {first : List Item} {line : Nat}
    (admitted : ∀ item ∈ first, item.Admitted limit) (second : List Item) :
    tokensFrom limit file line (first ++ second) =
      (tokensFrom limit file (line + newlines (renderItems first)) second).map
        (tokensOf line first ++ ·) := by
  induction first generalizing line with
  | nil =>
      show tokensFrom limit file line second = (tokensFrom limit file line second).map id
      rw [Except.map_id, id]
  | cons item later inductionHypothesis =>
      obtain ⟨itemAdmitted, laterAdmitted⟩ := List.forall_mem_cons.mp admitted
      rw [List.cons_append, tokensFrom, Item.admitted_iff.mp itemAdmitted, tokensOf,
        renderItems_cons, newlines_append, ← Nat.add_assoc]
      dsimp only
      rw [inductionHypothesis laterAdmitted]
      cases tokensFrom limit file (line + newlines item.render + newlines (renderItems later))
          second with
      | error error => rfl
      | ok tokens => simp [Except.map]

end Source

/-- Texts are parsed line by line: behind a text of whole lines that is parsed, any text is
parsed as it is alone, so many lines further down, and fails just as it does alone. -/
theorem parse_append {limit : DigitLimit} {first file : String} {tokens : List (Token Target)}
    (accepted : parse limit first file = .ok tokens) (whole : WholeLines first.toList)
    (second : String) :
    parse limit (first ++ second) file =
      match parse limit second file with
      | .ok later => .ok (tokens ++ later.map (Token.movedDown (newlines first.toList)))
      | .error error => .error (error.movedDown (newlines first.toList)) := by
  obtain ⟨items, split, fit, admitted, rfl⟩ := parse_eq_ok_iff.mp accepted
  rw [split] at whole
  unfold parse
  rw [String.toList_append, split, scan_append fit whole]
  rcases scan second.toList with ⟨later, remainder⟩
  cases remainder with
  | nil =>
      dsimp only
      rw [tokensFrom_append admitted, tokensFrom_movedDown]
      cases tokensFrom limit file 1 later with
      | error error => rfl
      | ok tokens => rfl
  | cons next behind =>
      dsimp only
      rw [renderItems_append, newlines_append, ← Nat.add_assoc, Nat.add_right_comm]
      rfl

/-- A quotation mark behind the line of a halt neither belongs to the halt nor changes it. -/
theorem parse_append_halt :
    let accepted : List (Token Target) := [.instruction ⟨.halt "Halt", "halt", 1, false, none⟩]
    parse .standard "halt \n" = .ok accepted ∧ WholeLines "halt \n".toList ∧
      parse .standard ("halt \n" ++ "l:\n") = .ok (accepted ++ [.label "l" "l:" 2]) ∧
      parse .standard ("halt \n" ++ "l:\n\"x\"") = .error ⟨3, "\"x\"", "", none⟩ := by
  intro accepted
  have parsed : parse .standard "halt \n" = .ok accepted := rfl
  have whole : WholeLines "halt \n".toList := wholeLines_iff.mpr (.inr ⟨"halt ".toList, rfl⟩)
  have labelled : parse .standard "l:\n" = .ok [.label "l" "l:" 1] := rfl
  have refused : parse .standard "l:\n\"x\"" = .error ⟨2, "\"x\"", "", none⟩ := rfl
  refine ⟨parsed, whole, ?_, ?_⟩
  · rw [parse_append parsed whole, labelled]
    rfl
  · rw [parse_append parsed whole, refused]
    rfl

end CounterMachine
