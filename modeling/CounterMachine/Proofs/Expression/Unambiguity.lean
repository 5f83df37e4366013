import CounterMachine.Proofs.Expression.Lexemes

/-!
Contract: the grammar of expressions is unambiguous.

Owns: that a text which is followed by a closing mark determines how far a phrase reaches and
which tree it spells, for operands, chains and whole texts.

Does not own: how a tree is found. No reader is used here, so no depth is bounded.

## Why the end is part of the statement

Two derivations are compared that start at the same place of a text and may end at different
places of it. Each is followed by marks that may stand behind its kind of phrase, and this
alone decides that they end at the same place, lexeme by lexeme.
-/

set_option autoImplicit false

namespace CounterMachine.Expression

open Text Source

/-- Of two runs with texts behind them that do not go on with the class, neither is longer. -/
theorem run_unique {belongs : Char → Bool} {run otherRun rest otherRest : List Char}
    (same : run ++ rest = otherRun ++ otherRest) (consists : Consists belongs run)
    (otherConsists : Consists belongs otherRun) (stops : Stops belongs rest)
    (otherStops : Stops belongs otherRest) : run = otherRun ∧ rest = otherRest := by
  obtain ⟨taken, dropped⟩ := takeWhile_dropWhile_iff.mpr ⟨same, otherConsists, otherStops⟩
  obtain ⟨takenHere, droppedHere⟩ := takeWhile_dropWhile_iff.mpr ⟨rfl, consists, stops⟩
  exact ⟨takenHere.symm.trans taken, droppedHere.symm.trans dropped⟩

/-- Every phrase that starts like the text spells the same tree with the same characters, as
long as both are followed by closing marks. -/
def Unique (ends : List Char) (Spells : Term → List Char → Prop) (term : Term)
    (text : List Char) : Prop :=
  ∀ {rest other otherText otherRest}, Spells other otherText →
    text ++ rest = otherText ++ otherRest → Followed ends rest → Followed ends otherRest →
    other = term ∧ otherText = text

/-- The same of the arguments of a call. -/
def UniqueArguments (first : Term) (others : List Term) (text : List Char) : Prop :=
  ∀ {rest otherText otherRest otherFirst otherOthers},
    (Phrase.arguments otherFirst otherOthers).Derives otherText →
    text ++ rest = otherText ++ otherRest → Followed argumentsEnds rest →
    Followed argumentsEnds otherRest →
    otherFirst = first ∧ otherOthers = others ∧ otherText = text

/-! ## Chains -/

section Chains

variable {Operator : Type} {operator? : Char → Option Operator} {inner outer : List Char}
  {level : Term → Phrase}

private theorem tail_unique (separates : Separates operator? inner outer)
    {others : List (Operator × Term)} {text : List Char}
    (tail : Tail operator? (fun term text => (level term).Derives text ∧
      Unique inner (fun term => (level term).Derives) term text) others text)
    {rest otherText otherRest : List Char} {otherOthers : List (Operator × Term)}
    (otherTail : Tail operator? (fun term => (level term).Derives) otherOthers otherText)
    (same : text ++ rest = otherText ++ otherRest) (followed : Followed outer rest)
    (otherFollowed : Followed outer otherRest) :
    otherOthers = others ∧ otherText = text := by
  induction tail generalizing otherText otherOthers with
  | nil =>
      cases otherTail with
      | nil => exact ⟨rfl, rfl⟩
      | cons isGap sign isGapAfter operand later =>
          rw [List.nil_append] at same
          rw [same, List.append_assoc] at followed
          exact absurd followed (separates.not_followed_operator isGap sign)
  | cons isGap sign isGapAfter operand later inductionHypothesis =>
      cases otherTail with
      | nil =>
          rw [List.nil_append] at same
          rw [← same, List.append_assoc] at otherFollowed
          exact absurd otherFollowed (separates.not_followed_operator isGap sign)
      | cons otherIsGap otherSign otherIsGapAfter otherOperand otherLater =>
          simp only [List.append_assoc, List.cons_append] at same
          have visible := separates.visible _ (separates.inner_of_operator sign)
          have otherVisible := separates.visible _ (separates.inner_of_operator otherSign)
          obtain ⟨rfl, behind⟩ := run_unique same isGap otherIsGap (stops_cons.mpr visible)
            (stops_cons.mpr otherVisible)
          obtain ⟨rfl, behindMark⟩ := List.cons.inj behind
          obtain ⟨rfl, operands⟩ := run_unique behindMark isGapAfter otherIsGapAfter
            (operand.1.stops_gap _) (otherOperand.stops_gap _)
          obtain ⟨rfl, rfl⟩ := operand.2 otherOperand operands
            (separates.followed_tail later followed)
            (separates.followed_tail otherLater otherFollowed)
          have operatorSame := Option.some.inj (sign.symm.trans otherSign)
          obtain ⟨rfl, rfl⟩ := inductionHypothesis otherLater (List.append_cancel_left operands)
          exact ⟨by rw [operatorSame], rfl⟩

private theorem chain_unique (separates : Separates operator? inner outer) {first : Term}
    {others : List (Operator × Term)} {text : List Char}
    (chain : Chain operator? (fun term text => (level term).Derives text ∧
      Unique inner (fun term => (level term).Derives) term text) first others text)
    {rest otherText otherRest : List Char} {otherFirst : Term}
    {otherOthers : List (Operator × Term)}
    (otherChain : Chain operator? (fun term => (level term).Derives) otherFirst otherOthers
      otherText)
    (same : text ++ rest = otherText ++ otherRest) (followed : Followed outer rest)
    (otherFollowed : Followed outer otherRest) :
    otherFirst = first ∧ otherOthers = others ∧ otherText = text := by
  obtain ⟨operand, tail⟩ := chain
  obtain ⟨otherOperand, otherTail⟩ := otherChain
  rw [List.append_assoc, List.append_assoc] at same
  obtain ⟨rfl, rfl⟩ := operand.2 otherOperand same (separates.followed_tail tail followed)
    (separates.followed_tail otherTail otherFollowed)
  obtain ⟨rfl, rfl⟩ := tail_unique separates tail otherTail (List.append_cancel_left same)
    followed otherFollowed
  exact ⟨rfl, rfl, rfl⟩

end Chains

/-! ## Operands -/

/-- The kinds of operands that the first character tells apart. -/
private inductive Opening where
  | numeral
  | sign
  | parenthesis
  | name

private def opening (first : Char) : Opening :=
  if first = '-' then .sign
  else if first = '(' then .parenthesis
  else if first.isDigit then .numeral
  else .name

private def Opens (term : Term) (text : List Char) : Opening → Prop
  | .numeral => term = .literal text ∧ IsRun Char.isDigit text
  | .sign => ∃ inner gap body, term = .negation inner ∧ text = '-' :: (gap ++ body) ∧
      IsGap gap ∧ (Phrase.operand inner).Derives body
  | .parenthesis => ∃ before body after, text = '(' :: (before ++ body ++ after ++ [')']) ∧
      IsGap before ∧ IsGap after ∧ (Phrase.sum term).Derives body
  | .name => (term = .identifier text ∧ IsIdentifier text) ∨
      ∃ letters gap before body after first others, term = .call letters first others ∧
        text = letters ++ gap ++ '(' :: (before ++ body ++ after ++ [')']) ∧
        IsIdentifier letters ∧ IsGap gap ∧ IsGap before ∧ IsGap after ∧
        (Phrase.arguments first others).Derives body

private theorem opening_of_isDigit {first : Char} (digit : first.isDigit = true) :
    opening first = .numeral := by
  rw [opening, if_neg, if_neg, if_pos digit]
  · rintro rfl
    exact absurd digit (by decide)
  · rintro rfl
    exact absurd digit (by decide)

private theorem opening_of_startsName {first : Char} (starts : startsName first = true) :
    opening first = .name := by
  rw [opening, if_neg, if_neg, if_neg (Bool.eq_false_iff.mp (isDigit_of_startsName starts))]
  · rintro rfl
    exact absurd starts (by decide)
  · rintro rfl
    exact absurd starts (by decide)

private theorem Phrase.Derives.opens {term : Term} {text : List Char}
    (derives : (Phrase.operand term).Derives text) :
    ∃ first later, text = first :: later ∧ Opens term text (opening first) := by
  cases derives with
  | literal isRun =>
      obtain ⟨first, later, rfl⟩ := List.exists_cons_of_ne_nil isRun.1
      refine ⟨first, later, rfl, ?_⟩
      rw [opening_of_isDigit (isRun.2 first List.mem_cons_self)]
      exact ⟨rfl, isRun⟩
  | identifier isIdentifier =>
      obtain ⟨first, later, rfl, starts⟩ := isIdentifier.exists_cons
      refine ⟨first, later, rfl, ?_⟩
      rw [opening_of_startsName starts]
      exact .inl ⟨rfl, isIdentifier⟩
  | negation isGap operand => exact ⟨_, _, rfl, _, _, _, rfl, rfl, isGap, operand⟩
  | parentheses isGap sum isGapAfter => exact ⟨_, _, rfl, _, _, _, rfl, isGap, isGapAfter, sum⟩
  | call isIdentifier isGap isGapBefore arguments isGapAfter =>
      obtain ⟨first, later, rfl, starts⟩ := isIdentifier.exists_cons
      refine ⟨first, _, rfl, ?_⟩
      rw [opening_of_startsName starts]
      exact .inr ⟨_, _, _, _, _, _, _, rfl, rfl, isIdentifier, isGap, isGapBefore, isGapAfter,
        arguments⟩

/-- An operand is of the kind that the first character of its text tells. -/
private theorem opens_like {other : Term} {later rest otherText otherRest : List Char}
    {first : Char} (derives : (Phrase.operand other).Derives otherText)
    (same : first :: later ++ rest = otherText ++ otherRest) :
    Opens other otherText (opening first) := by
  obtain ⟨otherFirst, otherLater, rfl, opens⟩ := derives.opens
  obtain ⟨rfl, -⟩ := List.cons.inj same
  exact opens

private theorem opens_name {other : Term} {letters rest otherText otherRest : List Char}
    (isIdentifier : IsIdentifier letters) (derives : (Phrase.operand other).Derives otherText)
    (same : letters ++ rest = otherText ++ otherRest) : Opens other otherText .name := by
  obtain ⟨first, later, rfl, starts⟩ := isIdentifier.exists_cons
  rw [← opening_of_startsName starts]
  exact opens_like derives same

/-- Behind a name there is a parenthesis only if the name is called. -/
private theorem not_followed_parenthesis {gap rest : List Char} (isGap : IsGap gap) :
    ¬ Followed operandEnds (gap ++ '(' :: rest) := by
  rw [followed_append_iff isGap, followed_cons_iff (by decide)]
  decide

/-- Texts in parentheses are the same as soon as what they enclose is. -/
private theorem enclosed_unique {before body after rest : List Char}
    {otherBefore otherBody otherAfter otherRest : List Char} {Same : Prop}
    (same : before ++ (body ++ (after ++ ')' :: rest)) =
      otherBefore ++ (otherBody ++ (otherAfter ++ ')' :: otherRest)))
    (isGap : IsGap before) (otherIsGap : IsGap otherBefore)
    (isGapAfter : IsGap after) (otherIsGapAfter : IsGap otherAfter)
    (starts : ∀ rest, Stops isWhiteSpace (body ++ rest))
    (otherStarts : ∀ rest, Stops isWhiteSpace (otherBody ++ rest))
    (unique : body ++ (after ++ ')' :: rest) = otherBody ++ (otherAfter ++ ')' :: otherRest) →
      Same ∧ otherBody = body) :
    Same ∧ otherBefore ++ otherBody ++ otherAfter ++ [')'] = before ++ body ++ after ++ [')'] := by
  obtain ⟨rfl, bodies⟩ := run_unique same isGap otherIsGap (starts _) (otherStarts _)
  obtain ⟨holds, rfl⟩ := unique bodies
  obtain ⟨rfl, -⟩ := run_unique (List.append_cancel_left bodies) isGapAfter otherIsGapAfter
    (stops_cons.mpr (by decide)) (stops_cons.mpr (by decide))
  exact ⟨holds, rfl⟩

private theorem identifier_unique {letters : List Char} (isIdentifier : IsIdentifier letters) :
    Unique operandEnds (fun term => (Phrase.operand term).Derives) (.identifier letters)
      letters := by
  intro rest other otherText otherRest derives same followed otherFollowed
  rcases opens_name isIdentifier derives same with ⟨rfl, otherIsIdentifier⟩ |
    ⟨letters, gap, before, body, after, inner, others, rfl, rfl, otherIsIdentifier, isGap, -⟩
  · obtain ⟨rfl, -⟩ := run_unique same isIdentifier.2 otherIsIdentifier.2 followed.stops_word
      otherFollowed.stops_word
    exact ⟨rfl, rfl⟩
  · -- The other one is a call, which this name would be followed by.
    simp only [List.append_assoc, List.cons_append] at same
    obtain ⟨-, rfl⟩ := run_unique same isIdentifier.2 otherIsIdentifier.2 followed.stops_word
      (stops_name isGap)
    exact absurd followed (not_followed_parenthesis isGap)

private theorem call_unique {letters gap before text after : List Char} {first : Term}
    {others : List Term} (isIdentifier : IsIdentifier letters) (isGap : IsGap gap)
    (isGapBefore : IsGap before) (derivesHere : (Phrase.arguments first others).Derives text)
    (unique : UniqueArguments first others text) (isGapAfter : IsGap after) :
    Unique operandEnds (fun term => (Phrase.operand term).Derives) (.call letters first others)
      (letters ++ gap ++ '(' :: (before ++ text ++ after ++ [')'])) := by
  intro rest other otherText otherRest derives same followed otherFollowed
  simp only [List.append_assoc, List.cons_append, List.nil_append] at same
  rcases opens_name isIdentifier derives same with ⟨rfl, otherIsIdentifier⟩ |
    ⟨otherLetters, otherGap, otherBefore, body, otherAfter, otherFirst, otherOthers, rfl, rfl,
      otherIsIdentifier, otherIsGap, otherIsGapBefore, otherIsGapAfter, arguments⟩
  · -- The other one is a name alone, which the parenthesis follows.
    obtain ⟨-, rfl⟩ := run_unique same isIdentifier.2 otherIsIdentifier.2 (stops_name isGap)
      otherFollowed.stops_word
    exact absurd otherFollowed (not_followed_parenthesis isGap)
  · simp only [List.append_assoc, List.cons_append, List.nil_append] at same
    obtain ⟨rfl, gaps⟩ := run_unique same isIdentifier.2 otherIsIdentifier.2 (stops_name isGap)
      (stops_name otherIsGap)
    obtain ⟨rfl, behind⟩ := run_unique gaps isGap otherIsGap (stops_cons.mpr (by decide))
      (stops_cons.mpr (by decide))
    obtain ⟨⟨rfl, rfl⟩, sameText⟩ := enclosed_unique (List.cons.inj behind).2 isGapBefore
      otherIsGapBefore isGapAfter otherIsGapAfter derivesHere.stops_gap arguments.stops_gap
      fun bodies => and_assoc.mpr (unique arguments bodies
        (followed_closing isGapAfter (by decide)) (followed_closing otherIsGapAfter (by decide)))
    exact ⟨rfl, by rw [sameText]⟩

/-! ## Whole phrases -/

private theorem hereditary_unique :
    Phrase.Hereditary
      (Unique operandEnds fun term => (Phrase.operand term).Derives)
      (Unique productEnds fun term => (Phrase.product term).Derives)
      (Unique sumEnds fun term => (Phrase.sum term).Derives)
      UniqueArguments where
  literal := by
    intro digits isRun rest other otherText otherRest derives same followed otherFollowed
    obtain ⟨first, later, rfl⟩ := List.exists_cons_of_ne_nil isRun.1
    have opens := opens_like derives same
    rw [opening_of_isDigit (isRun.2 first List.mem_cons_self)] at opens
    obtain ⟨rfl, otherIsRun⟩ := opens
    obtain ⟨rfl, -⟩ := run_unique same isRun.2 otherIsRun.2 followed.stops_digit
      otherFollowed.stops_digit
    exact ⟨rfl, rfl⟩
  identifier := identifier_unique
  negation := by
    intro term gap text isGap derivesHere unique rest other otherText otherRest derives same
      followed otherFollowed
    obtain ⟨inner, otherGap, body, rfl, rfl, otherIsGap, operand⟩ := opens_like derives same
    simp only [List.cons_append, List.append_assoc, List.cons.injEq, true_and] at same
    obtain ⟨rfl, bodies⟩ := run_unique same isGap otherIsGap (derivesHere.stops_gap _)
      (operand.stops_gap _)
    obtain ⟨rfl, rfl⟩ := unique operand bodies followed otherFollowed
    exact ⟨rfl, rfl⟩
  parentheses := by
    intro term before text after isGap derivesHere unique isGapAfter rest other otherText
      otherRest derives same followed otherFollowed
    obtain ⟨otherBefore, body, otherAfter, rfl, otherIsGap, otherIsGapAfter, sum⟩ :=
      opens_like derives same
    simp only [List.cons_append, List.append_assoc, List.cons.injEq, true_and,
      List.nil_append] at same
    obtain ⟨sameTerm, sameText⟩ := enclosed_unique same isGap otherIsGap isGapAfter
      otherIsGapAfter derivesHere.stops_gap sum.stops_gap fun bodies =>
        unique sum bodies (followed_closing isGapAfter (by decide))
          (followed_closing otherIsGapAfter (by decide))
    exact ⟨sameTerm, congrArg _ sameText⟩
  call := by
    intro letters gap before text after first others isIdentifier isGap isGapBefore derivesHere
      unique isGapAfter
    exact call_unique isIdentifier isGap isGapBefore derivesHere unique isGapAfter
  product := by
    intro first others text chain rest other otherText otherRest derives same followed
      otherFollowed
    obtain ⟨otherFirst, otherOthers, rfl, otherChain⟩ := derives.exists_product_chain
    obtain ⟨rfl, rfl, rfl⟩ :=
      chain_unique separates_product chain otherChain same followed otherFollowed
    exact ⟨rfl, rfl⟩
  sum := by
    intro first others text chain rest other otherText otherRest derives same followed
      otherFollowed
    obtain ⟨otherFirst, otherOthers, rfl, otherChain⟩ := derives.exists_sum_chain
    obtain ⟨rfl, rfl, rfl⟩ :=
      chain_unique separates_sum chain otherChain same followed otherFollowed
    exact ⟨rfl, rfl⟩
  arguments := by
    intro first others text chain rest otherText otherRest otherFirst otherOthers derives same
      followed otherFollowed
    obtain ⟨pairs, rfl, otherChain⟩ := derives.exists_arguments_chain
    obtain ⟨rfl, rfl, rfl⟩ :=
      chain_unique separates_arguments chain otherChain same followed otherFollowed
    exact ⟨rfl, rfl, rfl⟩

/-- A text spells at most one tree. -/
theorem Term.SpelledBy.unique {term other : Term} {text : List Char}
    (spelled : term.SpelledBy text) (otherSpelled : other.SpelledBy text) : other = term := by
  obtain ⟨before, body, after, rfl, isGap, isGapAfter, derives⟩ := spelled
  obtain ⟨otherBefore, otherBody, otherAfter, same, otherIsGap, otherIsGapAfter, otherDerives⟩ :=
    otherSpelled
  have nothing {gap : List Char} (isGap : IsGap gap) : Followed sumEnds gap := by
    have ends := (followed_append_iff isGap).mpr (followed_nil sumEnds)
    rwa [List.append_nil] at ends
  simp only [List.append_assoc] at same
  obtain ⟨-, bodies⟩ := run_unique same isGap otherIsGap (derives.stops_gap _)
    (otherDerives.stops_gap _)
  exact (hereditary_unique.sum_holds derives otherDerives bodies (nothing isGapAfter)
    (nothing otherIsGapAfter)).1

end CounterMachine.Expression
