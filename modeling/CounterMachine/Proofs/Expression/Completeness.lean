import CounterMachine.Proofs.Expression.Combinators

/-!
Contract: the reader of expressions refuses nothing that the grammar derives.

Owns: that a reader which meets a derivable text, followed by a closing mark or by nothing,
reads exactly that text, unless it runs out of nesting.

Does not own: what is returned. A text spells one tree only, so that soundness tells.

## Why no choice is taken back

The reader never returns to an earlier place once an operand was read. This loses nothing: where
an operand of a chain ends, what follows is an operator or what follows the chain, and what
follows the name of a call is a parenthesis, which follows no operand.
-/

set_option autoImplicit false

namespace CounterMachine.Expression

open Text Source

/-- Where the text is followed by a closing mark, the reader reads it up to its end, if it does
not run out of nesting. -/
def Accepts {Value : Type} (ends : List Char) (size : Nat) (reader : Cursor → Attempt Value)
    (text : List Char) : Prop :=
  ∀ ⦃cursor rest⦄, cursor.text = text ++ rest → Followed ends rest →
    cursor.text.length ≤ size → reader cursor ≠ .tooDeep →
    ∃ value final reach, reader cursor = .read value final reach ∧ final.text = rest

variable {size : Nat}

/-! ## Combinators -/

namespace Accepts

variable {Value Result : Type} {ends : List Char} {text gap : List Char}

theorem map {reader : Cursor → Attempt Value} (accepts : Accepts ends size reader text)
    (convert : Value → Result) :
    Accepts ends size (fun cursor => (reader cursor).map convert) text := by
  intro cursor rest same followed short within
  obtain ⟨value, final, reach, read, behind⟩ :=
    accepts same followed short (mt map_eq_tooDeep.mpr within)
  exact ⟨convert value, final, reach, map_eq_read.mpr ⟨value, read, rfl⟩, behind⟩

theorem enter {reader : Nat → Cursor → Attempt Value}
    (accepts : ∀ room, Accepts ends size (reader room) text) (cost room : Nat) :
    Accepts ends size (fun cursor => enter cost room fun room => reader room cursor) text := by
  intro cursor rest same followed short within
  have entered := enter_ne_tooDeep within
  simp only [entered] at within ⊢
  exact accepts _ same followed short within

theorem skip {reader : Cursor → Attempt Value} (accepts : Accepts ends size reader text)
    (isGap : IsGap gap) (stops : ∀ rest, Stops isWhiteSpace (text ++ rest)) :
    Accepts ends size (fun cursor => reader cursor.skip) (gap ++ text) := by
  intro cursor rest same followed short within
  rw [List.append_assoc] at same
  have skipped := Cursor.skip_text same isGap (stops rest)
  exact accepts skipped followed (Nat.le_trans cursor.length_skip_le short) within

theorem closed {otherEnds : List Char} {reader : Cursor → Attempt Value}
    (accepts : Accepts ends size reader text) (closing : ')' ∈ ends) (isGap : IsGap gap) :
    Accepts otherEnds size (fun cursor => closed (reader cursor)) (text ++ gap ++ [')']) := by
  intro cursor rest same followed short within
  have enclosed : cursor.text = text ++ (gap ++ ')' :: rest) := by
    rw [same]
    simp only [List.append_assoc, List.cons_append, List.nil_append]
  have notDeep : reader cursor ≠ .tooDeep := by
    intro deep
    simp only [deep] at within
    exact within rfl
  obtain ⟨value, final, reach, read, behind⟩ :=
    accepts enclosed (followed_closing isGap closing) short notDeep
  have closes := Cursor.skip_text behind isGap (stops_cons.mpr (by decide))
  refine ⟨value, ⟨final.skip.position + 1, rest⟩, reach, ?_, rfl⟩
  simp only [read]
  exact closed_of_read closes

end Accepts

/-! ## Chains -/

section Chains

variable {Operator : Type} {operator? : Char → Option Operator} {inner outer : List Char}
  {level : Term → Phrase}

/-- By induction on the operands. The bound on their number is that on their characters. -/
private theorem laterOperands_accepts (separates : Separates operator? inner outer)
    {operand : Cursor → Attempt Expression} {others : List (Operator × Term)} {tail : List Char}
    (isTail : Tail operator? (fun term text => (level term).Derives text ∧
      Accepts inner size operand text) others tail)
    {cursor : Cursor} {rest : List Char} {fuel reach : Nat} (same : cursor.text = tail ++ rest)
    (followed : Followed outer rest) (short : cursor.text.length ≤ size)
    (enough : tail.length ≤ fuel)
    (within : laterOperands operator? operand fuel cursor reach ≠ .tooDeep) :
    ∃ values final furthest,
      laterOperands operator? operand fuel cursor reach = .read values final furthest ∧
        final.text = rest := by
  induction isTail generalizing cursor fuel reach with
  | nil =>
      have absent : ∀ mark ∈ cursor.skip.text.head?, operator? mark = none := by
        intro mark found
        rw [List.nil_append] at same
        rw [← same] at followed
        exact separates.not_operator mark (followed mark found)
      obtain ⟨furthest, read, -⟩ := laterOperands_of_no_operator operand fuel reach absent
      exact ⟨[], cursor, furthest, read, same⟩
  | @cons mark operator term before after text laterText later isGap sign isGapAfter operandHere
      isTail inductionHypothesis =>
      obtain ⟨derives, accepts⟩ := operandHere
      have behindGap : cursor.text = before ++ mark :: (after ++ text ++ (laterText ++ rest)) := by
        rw [same]
        simp only [List.append_assoc, List.cons_append]
      have visible := separates.visible _ (separates.inner_of_operator sign)
      have found := Cursor.skip_text behindGap isGap (stops_cons.mpr visible)
      have shorter : (after ++ text ++ (laterText ++ rest)).length < cursor.text.length := by
        rw [behindGap]
        simp only [List.length_append, List.length_cons]
        omega
      cases fuel with
      | zero => simp at enough
      | succ fuel =>
          rw [laterOperands_of_operator found sign] at within ⊢
          have notDeep : operand (Cursor.skip ⟨cursor.skip.position + 1,
              after ++ text ++ (laterText ++ rest)⟩) ≠ .tooDeep := by
            intro deep
            rw [deep] at within
            exact within rfl
          obtain ⟨value, final, deeper, read, behind⟩ :=
            accepts.skip isGapAfter derives.stops_gap rfl (separates.followed_tail isTail followed)
              (Nat.le_trans (Nat.le_of_lt shorter) short) notDeep
          simp only [read] at within ⊢
          have finalShort : final.text.length ≤ size := by
            rw [behind]
            rw [List.length_append] at shorter
            omega
          have enoughLater : laterText.length ≤ fuel := by
            simp only [List.length_append, List.length_cons] at enough
            omega
          obtain ⟨values, last, furthest, readLater, lastText⟩ :=
            inductionHypothesis behind finalShort enoughLater (mt map_eq_tooDeep.mpr within)
          exact ⟨_, last, furthest, map_eq_read.mpr ⟨values, readLater, rfl⟩, lastText⟩

theorem chainOf_accepts (separates : Separates operator? inner outer)
    {operand : Nat → Cursor → Attempt Expression} {first : Term}
    {others : List (Operator × Term)} {text : List Char}
    (chain : Chain operator? (fun term text => (level term).Derives text ∧
      ∀ room, Accepts inner size (operand room) text) first others text) (room : Nat) :
    Accepts outer size (chainOf operator? operand size room) text := by
  cases chain with
  | @intro text tail operandHere isTail =>
      obtain ⟨derives, accepts⟩ := operandHere
      intro cursor rest same followed short within
      rw [List.append_assoc] at same
      rw [chainOf_eq] at within ⊢
      have notDeep : operand room cursor ≠ .tooDeep := by
        intro deep
        rw [deep] at within
        exact within rfl
      obtain ⟨value, final, reach, read, behind⟩ :=
        accepts room same (separates.followed_tail isTail followed) short notDeep
      simp only [read] at within ⊢
      have shorter : final.text.length ≤ cursor.text.length := by
        simp only [behind, same, List.length_append]
        omega
      have enough : tail.length ≤ size := by
        rw [behind, List.length_append] at shorter
        omega
      obtain ⟨values, last, furthest, readLater, lastText⟩ :=
        laterOperands_accepts separates
          (isTail.imp fun _ _ operand => ⟨operand.1, Accepts.enter operand.2 2 room⟩) behind
          followed (Nat.le_trans shorter short) enough (mt map_eq_tooDeep.mpr within)
      exact ⟨_, last, furthest, map_eq_read.mpr ⟨values, readLater, rfl⟩, lastText⟩

end Chains

/-! ## Operands -/

/-- Without a level no operand is read, and no text is too short for its first character. -/
private theorem accepts_of_first {ends : List Char} {first : Char} {later : List Char}
    {levels room : Nat}
    (reads : ∀ below position rest, levels = below + 1 → Followed ends rest →
      (later ++ rest).length ≤ size →
      operand size (below + 1) room ⟨position, first :: (later ++ rest)⟩ ≠ .tooDeep →
      ∃ value final reach, operand size (below + 1) room ⟨position, first :: (later ++ rest)⟩ =
        .read value final reach ∧ final.text = rest) :
    Accepts ends size (operand size levels room) (first :: later) := by
  rintro ⟨position, text⟩ rest same followed short within
  cases levels with
  | zero => exact absurd rfl within
  | succ below =>
      have spelled : text = first :: (later ++ rest) := same
      subst spelled
      exact reads below position rest rfl followed (Nat.le_of_succ_le short) within

private theorem literal_accepts {digits : List Char} (isRun : IsRun Char.isDigit digits)
    (levels room : Nat) :
    Accepts operandEnds size (operand size levels room) digits := by
  obtain ⟨first, later, rfl⟩ := List.exists_cons_of_ne_nil isRun.1
  apply accepts_of_first
  intro below position rest _ followed _ _
  rw [operand_of_isDigit (isRun.2 first List.mem_cons_self)]
  exact ⟨_, _, _, rfl, congrArg Cursor.text (Cursor.pass_eq rfl isRun.2 followed.stops_digit)⟩

private theorem identifier_accepts {letters : List Char} (isIdentifier : IsIdentifier letters)
    (levels room : Nat) :
    Accepts operandEnds size (operand size levels room) letters := by
  obtain ⟨first, later, rfl, starts⟩ := isIdentifier.exists_cons
  apply accepts_of_first
  intro below position rest _ followed _ _
  have passed : Cursor.pass isWord ⟨position, first :: (later ++ rest)⟩ = ⟨_, rest⟩ :=
    Cursor.pass_eq rfl isIdentifier.2 followed.stops_word
  have uncalled : Stops (· == '(') (rest.dropWhile isWhiteSpace) := by
    intro mark found
    have ends := followed mark found
    rw [beq_eq_false_iff_ne]
    rintro rfl
    exact absurd ends (by decide)
  rw [operand_of_uncalled starts rfl passed uncalled]
  exact ⟨_, _, _, rfl, rfl⟩

private theorem call_accepts {letters gap before text after : List Char}
    (isIdentifier : IsIdentifier letters) (isGap : IsGap gap) (isGapBefore : IsGap before)
    (isGapAfter : IsGap after) (stops : ∀ rest, Stops isWhiteSpace (text ++ rest))
    (accepts : ∀ levels room,
      Accepts argumentsEnds size (arguments (operand size levels) size room) text)
    (levels room : Nat) :
    Accepts operandEnds size (operand size levels room)
      (letters ++ gap ++ '(' :: (before ++ text ++ after ++ [')'])) := by
  obtain ⟨first, later, rfl, starts⟩ := isIdentifier.exists_cons
  rw [List.append_assoc, List.cons_append]
  apply accepts_of_first
  intro below position rest _ followed short within
  rw [List.append_assoc, List.append_assoc, List.cons_append] at short within ⊢
  obtain ⟨inside, enclosed⟩ : ∃ inside, before ++ text ++ after ++ [')'] ++ rest = inside :=
    ⟨_, rfl⟩
  rw [enclosed] at short within ⊢
  have passed : Cursor.pass isWord ⟨position, first :: (later ++ (gap ++ '(' :: inside))⟩ =
      ⟨position + (first :: later).length, gap ++ '(' :: inside⟩ :=
    Cursor.pass_eq rfl isIdentifier.2 (stops_name isGap)
  have taken := (takeWhile_dropWhile_iff.mpr
    ⟨(rfl : first :: (later ++ (gap ++ '(' :: inside)) = _), isIdentifier.2, stops_name isGap⟩).1
  have opened : (Cursor.skip ⟨position + (first :: later).length, gap ++ '(' :: inside⟩).text =
      '(' :: inside :=
    Cursor.skip_text rfl isGap (stops_cons.mpr (by decide))
  have tried := operand_of_called size below room starts taken passed opened
  generalize (Cursor.skip ⟨position + (first :: later).length, gap ++ '(' :: inside⟩).position + 1 =
    opening at tried
  have insideShort : inside.length ≤ size := by
    simp only [List.length_append, List.length_cons] at short
    omega
  have here : (⟨opening, inside⟩ : Cursor).text = before ++ text ++ after ++ [')'] ++ rest :=
    enclosed.symm
  have argumentsRead := (Accepts.enter (fun room =>
    (accepts below room).skip isGapBefore stops) 6 room).closed (by decide) isGapAfter here followed
      insideShort
  simp only at argumentsRead
  rw [tried] at within ⊢
  obtain ⟨⟨argument, others⟩, final, reach, read, behind⟩ := argumentsRead (by
    intro deep
    rw [deep] at within
    exact within rfl)
  rw [read]
  exact ⟨_, final, reach, rfl, behind⟩

theorem hereditary_accepts (size : Nat) :
    Phrase.Hereditary
      (fun _ text => ∀ levels room, Accepts operandEnds size (operand size levels room) text)
      (fun _ text => ∀ levels room,
        Accepts productEnds size (product (operand size levels) size room) text)
      (fun _ text => ∀ levels room,
        Accepts sumEnds size (sum (operand size levels) size room) text)
      (fun _ _ text => ∀ levels room,
        Accepts argumentsEnds size (arguments (operand size levels) size room) text) where
  literal := literal_accepts
  identifier := identifier_accepts
  negation := by
    intro term gap text isGap derives accepts levels room
    apply accepts_of_first
    intro below position rest _ followed short within
    rw [operand_of_minus] at within ⊢
    exact (Accepts.enter (fun room => (accepts below room).skip isGap derives.stops_gap) 2 room).map
      Expression.negation rfl followed short within
  parentheses := by
    intro term before text after isGap derives accepts isGapAfter levels room
    apply accepts_of_first
    intro below position rest _ followed short within
    rw [operand_of_parenthesis] at within ⊢
    have entered := Accepts.enter
      (fun room => (accepts below room).skip isGap derives.stops_gap) 5 room
    exact entered.closed (by decide) isGapAfter rfl followed short within
  call := by
    intro letters gap before text after first others isIdentifier isGap isGapBefore derives accepts
      isGapAfter
    exact call_accepts isIdentifier isGap isGapBefore isGapAfter derives.stops_gap accepts
  product := by
    intro first others text chain levels room
    have parts := chain.imp fun _ _ operand => And.intro operand.1 (operand.2 levels)
    exact (chainOf_accepts separates_product parts room).map chained
  sum := by
    intro first others text chain levels room
    have parts := chain.imp fun _ _ operand => And.intro operand.1 (operand.2 levels)
    exact (chainOf_accepts separates_sum parts room).map chained
  arguments := by
    intro first others text chain levels room
    have parts := chain.imp fun _ _ operand => And.intro operand.1 (operand.2 levels)
    exact (chainOf_accepts separates_arguments parts room).map _

end CounterMachine.Expression
