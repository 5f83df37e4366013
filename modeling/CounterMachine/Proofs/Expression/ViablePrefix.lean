import CounterMachine.Proofs.Expression.Soundness

/-!
Contract: how far the reader of expressions gets before it gives up.

Owns: when a text leads from one place to another; that whatever an attempt returns, the text
before the furthest place at which it looked for something in vain can be completed to a phrase;
and that what it has read leads to the place where it stopped.

Does not own: the columns that are reported.

## Why no such place is beyond a dead end

Only operands and operators are looked for. What stands before an operand can be completed with a
numeral, and what stands before an operator of a chain with that operator and a numeral. Around
such a completion the open parentheses remain to be closed, and nothing else. So the statement
about a phrase follows from the one about its parts, even where what was tried is given up later.
-/

set_option autoImplicit false

namespace CounterMachine.Expression

open Text Source

/-! ## Places -/

/-- The text stands between the place of the cursor and a later one. -/
structure Cursor.Leads (cursor : Cursor) (between : List Char) (later : Cursor) : Prop where
  text : cursor.text = between ++ later.text
  position : later.position = cursor.position + between.length

namespace Cursor

variable {cursor middle later : Cursor} {text other : List Char}

theorem Leads.refl (cursor : Cursor) : cursor.Leads [] cursor :=
  ⟨rfl, rfl⟩

theorem Leads.trans (first : cursor.Leads text middle) (second : middle.Leads other later) :
    cursor.Leads (text ++ other) later where
  text := by rw [first.text, second.text, List.append_assoc]
  position := by rw [second.position, first.position, List.length_append, Nat.add_assoc]

/-- Between two places stands one text only. -/
theorem Leads.unique (leads : cursor.Leads text later) (same : cursor.text = other ++ later.text) :
    text = other :=
  List.append_cancel_right (leads.text.symm.trans same)

theorem leads_next (position : Nat) (first : Char) (following : List Char) :
    Leads ⟨position, first :: following⟩ [first] ⟨position + 1, following⟩ :=
  ⟨rfl, rfl⟩

theorem leads_pass (belongs : Char → Bool) (cursor : Cursor) :
    cursor.Leads (cursor.text.takeWhile belongs) (cursor.pass belongs) :=
  ⟨List.takeWhile_append_dropWhile.symm, rfl⟩

theorem exists_leads_skip (cursor : Cursor) :
    ∃ gap, IsGap gap ∧ cursor.Leads gap cursor.skip :=
  ⟨_, (takeWhile_dropWhile_iff.mp ⟨rfl, rfl⟩).2.1, cursor.leads_pass isWhiteSpace⟩

/-- Behind the cursor and the white space there, one character further. -/
theorem exists_leads_behind {mark : Char} {behind : List Char}
    (found : cursor.skip.text = mark :: behind) :
    ∃ gap, IsGap gap ∧
      cursor.Leads (gap ++ [mark]) ⟨cursor.skip.position + 1, behind⟩ := by
  obtain ⟨gap, isGap, leads⟩ := cursor.exists_leads_skip
  generalize cursor.skip = next at found leads ⊢
  obtain ⟨position, text⟩ := next
  cases found
  exact ⟨gap, isGap, leads.trans (leads_next position mark behind)⟩

end Cursor

/-! ## Completions -/

/-- A place that the cursor comes to, such that the text up to it is the beginning of one with
the property. -/
def Cursor.Reaches (Whole : List Char → Prop) (cursor : Cursor) (reach : Nat) : Prop :=
  ∃ seen place more, cursor.Leads seen place ∧ place.position = reach ∧ Whole (seen ++ more)

theorem Cursor.Reaches.here {Whole : List Char → Prop} {cursor : Cursor} {text : List Char}
    (whole : Whole text) : cursor.Reaches Whole cursor.position :=
  ⟨[], cursor, text, .refl cursor, rfl, whole⟩

/-- What is reached from a later place is reached from an earlier one, if a whole from there on
can be made part of a whole from here on. -/
theorem Cursor.Reaches.after {Inner Outer : List Char → Prop} {cursor later : Cursor}
    {lead : List Char} {reach : Nat} (reaches : later.Reaches Inner reach)
    (leads : cursor.Leads lead later)
    (embed : ∀ text, Inner text → ∃ behind, Outer (lead ++ text ++ behind)) :
    cursor.Reaches Outer reach := by
  obtain ⟨seen, place, more, leadsThere, same, inner⟩ := reaches
  obtain ⟨behind, outer⟩ := embed (seen ++ more) inner
  refine ⟨lead ++ seen, place, more ++ behind, leads.trans leadsThere, same, ?_⟩
  simpa only [List.append_assoc] using outer

theorem Cursor.Reaches.append {Inner Outer : List Char → Prop} {cursor later : Cursor}
    {lead : List Char} {reach : Nat} (reaches : later.Reaches Inner reach)
    (leads : cursor.Leads lead later) (extend : ∀ text, Inner text → Outer (lead ++ text)) :
    cursor.Reaches Outer reach := by
  refine reaches.after leads fun text inner => ⟨[], ?_⟩
  rw [List.append_nil]
  exact extend text inner

/-- What was read leads to the place behind it, and the furthest place at which something was
looked for in vain can be completed. -/
def Attempt.Viable {Value : Type} (Whole : List Char → Prop) (cursor : Cursor) :
    Attempt Value → Prop
  | .read _ final reach => (∃ text, cursor.Leads text final) ∧ cursor.Reaches Whole reach
  | .stuck reach => cursor.Reaches Whole reach
  | .tooDeep => True

namespace Attempt.Viable

variable {Value Result : Type} {attempt : Attempt Value} {Whole Inner Outer : List Char → Prop}
  {cursor later : Cursor}

theorem map (viable : attempt.Viable Whole cursor) (convert : Value → Result) :
    (attempt.map convert).Viable Whole cursor := by
  cases attempt with
  | read value final reach => exact viable
  | stuck reach => exact viable
  | tooDeep => trivial

theorem enter {attempt : Nat → Attempt Value} (viable : ∀ room, (attempt room).Viable Whole cursor)
    (cost room : Nat) : (enter cost room attempt).Viable Whole cursor := by
  unfold Expression.enter
  split
  · trivial
  · exact viable _

/-- A closing parenthesis that is missing is not looked for any further than what was tried. -/
theorem closed (viable : attempt.Viable Whole cursor) :
    (closed attempt).Viable Whole cursor := by
  cases attempt with
  | read value rest reach =>
      obtain ⟨⟨text, leads⟩, reaches⟩ := viable
      rw [Expression.closed]
      split
      · next position behind found =>
        have closing : rest.skip.text = ')' :: behind := by rw [found]
        obtain ⟨gap, -, leadsBehind⟩ := Cursor.exists_leads_behind closing
        rw [found] at leadsBehind
        exact ⟨⟨_, leads.trans leadsBehind⟩, reaches⟩
      · exact reaches
  | stuck reach => exact viable
  | tooDeep => trivial

/-- An attempt from a later place, seen from an earlier one. -/
theorem after {lead : List Char} (viable : attempt.Viable Inner later)
    (leads : cursor.Leads lead later)
    (embed : ∀ text, Inner text → ∃ behind, Outer (lead ++ text ++ behind)) :
    attempt.Viable Outer cursor := by
  cases attempt with
  | read value final reach =>
      obtain ⟨⟨text, leadsOn⟩, reaches⟩ := viable
      exact ⟨⟨_, leads.trans leadsOn⟩, reaches.after leads embed⟩
  | stuck reach => exact viable.after leads embed
  | tooDeep => trivial

theorem append {lead : List Char} (viable : attempt.Viable Inner later)
    (leads : cursor.Leads lead later) (extend : ∀ text, Inner text → Outer (lead ++ text)) :
    attempt.Viable Outer cursor := by
  refine viable.after leads fun text inner => ⟨[], ?_⟩
  rw [List.append_nil]
  exact extend text inner

theorem imp (viable : attempt.Viable Inner cursor) (widen : ∀ text, Inner text → Outer text) :
    attempt.Viable Outer cursor :=
  viable.append (.refl cursor) widen

end Attempt.Viable

/-! ## Chains -/

section Chains

variable {Operator : Type} {operator? : Char → Option Operator} {level : Term → Phrase}

/-- The text spells some tree. -/
def Spells (level : Term → Phrase) (text : List Char) : Prop :=
  ∃ term, (level term).Derives text

/-- The text spells further operands of a chain. -/
def SpellsTail (operator? : Char → Option Operator) (level : Term → Phrase)
    (text : List Char) : Prop :=
  ∃ terms, Tail operator? (fun term => (level term).Derives) terms text

/-- The text spells a chain. -/
def SpellsChain (operator? : Char → Option Operator) (level : Term → Phrase)
    (text : List Char) : Prop :=
  ∃ first terms, Chain operator? (fun term => (level term).Derives) first terms text

private theorem spellsTail_cons {mark : Char} {operator : Operator}
    {before after text tail : List Char} (isGap : IsGap before)
    (sign : operator? mark = some operator) (isGapAfter : IsGap after)
    (operand : Spells level text) (rest : SpellsTail operator? level tail) :
    SpellsTail operator? level (before ++ [mark] ++ after ++ text ++ tail) := by
  obtain ⟨term, derives⟩ := operand
  obtain ⟨terms, isTail⟩ := rest
  refine ⟨(operator, term) :: terms, ?_⟩
  simpa only [List.append_assoc, List.cons_append, List.nil_append] using
    Tail.cons isGap sign isGapAfter derives isTail

private theorem spellsTail_single {mark : Char} {operator : Operator}
    {before after text : List Char} (isGap : IsGap before)
    (sign : operator? mark = some operator) (isGapAfter : IsGap after)
    (operand : Spells level text) :
    SpellsTail operator? level (before ++ [mark] ++ after ++ text) := by
  have single := spellsTail_cons isGap sign isGapAfter operand ⟨[], .nil⟩
  rwa [List.append_nil] at single

variable {sample : Char} {operator : Operator}

/-- By induction on the bound on operands: further operands are read or nested too deeply, and
nothing is looked for in vain but at the place given, or where the text up to there can be
completed to operands. -/
private theorem laterOperands_viable {operand : Cursor → Attempt Expression}
    (sound : Sound operand (Spelled level))
    (viable : ∀ cursor, (operand cursor).Viable (Spells level) cursor)
    (known : operator? sample = some operator) {numeral : List Char}
    (spelled : Spells level numeral) (fuel : Nat) (cursor : Cursor) (reach : Nat) :
    laterOperands operator? operand fuel cursor reach = .tooDeep ∨
      ∃ values final furthest,
        laterOperands operator? operand fuel cursor reach = .read values final furthest ∧
          (∃ text, cursor.Leads text final) ∧
          (furthest = reach ∨ cursor.Reaches (SpellsTail operator? level) furthest) := by
  induction fuel generalizing cursor reach with
  | zero => exact .inr ⟨[], cursor, reach, rfl, ⟨[], .refl cursor⟩, .inl rfl⟩
  | succ fuel inductionHypothesis =>
      rcases exists_operator_or_absent operator? cursor with
        ⟨mark, operator, behind, found, sign⟩ | absent
      · rw [laterOperands_of_operator found sign]
        obtain ⟨before, isGap, leadsMark⟩ := Cursor.exists_leads_behind found
        obtain ⟨next, skipped⟩ : ∃ next, Cursor.skip ⟨cursor.skip.position + 1, behind⟩ = next :=
          ⟨_, rfl⟩
        obtain ⟨after, isGapAfter, leadsAfter⟩ :=
          Cursor.exists_leads_skip ⟨cursor.skip.position + 1, behind⟩
        rw [skipped] at leadsAfter ⊢
        have leads := leadsMark.trans leadsAfter
        -- The furthest place stays, or it is within this operand.
        have either {deeper : Nat} (reaches : next.Reaches (Spells level) deeper) :
            max reach deeper = reach ∨
              cursor.Reaches (SpellsTail operator? level) (max reach deeper) := by
          rcases max_choice reach deeper with same | same
          · exact .inl same
          · rw [same]
            exact .inr (reaches.append leads fun _ => spellsTail_single isGap sign isGapAfter)
        have viableHere := viable next
        cases readHere : operand next with
        | tooDeep => exact .inl rfl
        | stuck deeper =>
            rw [readHere] at viableHere
            exact .inr ⟨[], cursor, _, rfl, ⟨[], .refl cursor⟩, either viableHere⟩
        | read value rest deeper =>
            rw [readHere] at viableHere
            obtain ⟨⟨text, leadsOn⟩, reaches⟩ := viableHere
            obtain ⟨_, same, term, derives, -⟩ := sound readHere
            cases leadsOn.unique same
            have leadsRest := leads.trans leadsOn
            rcases inductionHypothesis rest (max reach deeper) with
              deep | ⟨values, final, furthest, read, ⟨tail, leadsTail⟩, further⟩
            · simp only [deep]
              exact .inl rfl
            · simp only [read]
              refine .inr ⟨_, final, furthest, rfl, ⟨_, leadsRest.trans leadsTail⟩, ?_⟩
              rcases further with rfl | reachesTail
              · exact either reaches
              · exact .inr (reachesTail.append leadsRest fun _ =>
                  spellsTail_cons isGap sign isGapAfter ⟨term, derives⟩)
      · obtain ⟨furthest, read, either⟩ :=
          laterOperands_of_no_operator operand (fuel + 1) reach absent
        obtain ⟨gap, isGap, leads⟩ := cursor.exists_leads_skip
        have completed := spellsTail_single isGap known (List.forall_mem_nil _) spelled
        rw [List.append_nil, List.append_assoc] at completed
        refine .inr ⟨[], cursor, furthest, read, ⟨[], .refl cursor⟩, either.imp_right ?_⟩
        intro atMark
        exact ⟨gap, cursor.skip, [sample] ++ numeral, leads, atMark.symm, completed⟩

private theorem chainOf_viable {operand : Nat → Cursor → Attempt Expression}
    (sound : ∀ room, Sound (operand room) (Spelled level))
    (viable : ∀ room cursor, (operand room cursor).Viable (Spells level) cursor)
    (known : operator? sample = some operator) {numeral : List Char}
    (spelled : Spells level numeral) (size room : Nat) (cursor : Cursor) :
    (chainOf operator? operand size room cursor).Viable (SpellsChain operator? level) cursor := by
  have single {text : List Char} (spells : Spells level text) :
      SpellsChain operator? level text := by
    obtain ⟨term, derives⟩ := spells
    exact ⟨term, [], .single derives⟩
  rw [chainOf_eq]
  have viableHere := (viable room cursor).imp fun _ => single
  cases readHere : operand room cursor with
  | tooDeep => trivial
  | stuck reach =>
      rw [readHere] at viableHere
      exact viableHere
  | read first rest reach =>
      rw [readHere] at viableHere
      obtain ⟨⟨text, leads⟩, reaches⟩ := viableHere
      obtain ⟨_, same, term, derives, -⟩ := sound room readHere
      cases leads.unique same
      have viableLater (cursor : Cursor) := Attempt.Viable.enter (viable · cursor) 2 room
      rcases laterOperands_viable (enter_sound sound 2 room) viableLater known spelled size rest
          reach with deep | ⟨values, final, furthest, read, ⟨tail, leadsTail⟩, further⟩
      · simp only [deep]
        trivial
      · simp only [read]
        refine ⟨⟨_, leads.trans leadsTail⟩, ?_⟩
        rcases further with rfl | reachesTail
        · exact reaches
        · exact reachesTail.append leads fun _ ⟨terms, isTail⟩ =>
            ⟨term, terms, .intro derives isTail⟩

end Chains

/-! ## Products, sums and arguments -/

private theorem spells_numeral : Spells .operand ['0'] :=
  ⟨.literal ['0'], .literal (by decide)⟩

section Levels

variable {operand : Nat → Cursor → Attempt Expression}
  (sound : ∀ room, Sound (operand room) (Spelled .operand))
  (viable : ∀ room cursor, (operand room cursor).Viable (Spells .operand) cursor)
include sound viable

theorem product_viable (size room : Nat) (cursor : Cursor) :
    (product operand size room cursor).Viable (Spells .product) cursor := by
  have known : BinaryOperator.multiplicative? '*' = some .times := rfl
  refine (chainOf_viable sound viable known spells_numeral size room cursor).map chained |>.imp ?_
  rintro text ⟨first, others, chain⟩
  exact ⟨_, .product chain⟩

theorem sum_viable (size room : Nat) (cursor : Cursor) :
    (sum operand size room cursor).Viable (Spells .sum) cursor := by
  have known : BinaryOperator.additive? '+' = some .plus := rfl
  have numeral : Spells .product ['0'] := spells_numeral.imp fun _ => .factor
  refine (chainOf_viable (product_sound size sound) (product_viable sound viable size) known
    numeral size room cursor).map chained |>.imp ?_
  rintro text ⟨first, others, chain⟩
  exact ⟨_, .sum chain⟩

theorem arguments_viable (size room : Nat) (cursor : Cursor) :
    (arguments operand size room cursor).Viable
      (fun text => ∃ first others, (Phrase.arguments first others).Derives text) cursor := by
  have known : separator? ',' = some () := rfl
  have numeral : Spells .sum ['0'] := spells_numeral.imp fun _ derives => .summand (.factor derives)
  refine (chainOf_viable (sum_sound size sound) (sum_viable sound viable size) known numeral size
    room cursor).map _ |>.imp ?_
  rintro text ⟨first, others, chain⟩
  exact ⟨_, _, .arguments chain⟩

end Levels

/-! ## Operands -/

private theorem spells_negation {gap text : List Char} (isGap : IsGap gap)
    (spells : Spells .operand text) : Spells .operand (['-'] ++ gap ++ text) := by
  obtain ⟨term, derives⟩ := spells
  exact ⟨_, .negation isGap derives⟩

private theorem spells_group {before text : List Char} (isGap : IsGap before)
    (spells : Spells .sum text) : Spells .operand (['('] ++ before ++ text ++ [')']) := by
  obtain ⟨term, derives⟩ := spells
  have group := Phrase.Derives.parentheses isGap derives (List.forall_mem_nil _)
  rw [List.append_nil] at group
  exact ⟨term, group⟩

private theorem spells_call {letters gap before text : List Char}
    (isIdentifier : IsIdentifier letters) (isGap : IsGap gap) (isGapBefore : IsGap before)
    (spells : ∃ first others, (Phrase.arguments first others).Derives text) :
    Spells .operand (letters ++ (gap ++ ['(']) ++ before ++ text ++ [')']) := by
  obtain ⟨first, others, derives⟩ := spells
  have call := Phrase.Derives.call isIdentifier isGap isGapBefore derives (List.forall_mem_nil _)
  refine ⟨.call letters first others, ?_⟩
  simpa only [List.append_assoc, List.cons_append, List.nil_append] using call

private theorem name_viable {size levels room : Nat}
    (viable : ∀ room cursor, (operand size levels room cursor).Viable (Spells .operand) cursor)
    {first : Char} (starts : startsName first = true) (position : Nat) (following : List Char) :
    (operand size (levels + 1) room ⟨position, first :: following⟩).Viable (Spells .operand)
      ⟨position, first :: following⟩ := by
  obtain ⟨behind, passed⟩ : ∃ behind, Cursor.pass isWord ⟨position, first :: following⟩ = behind :=
    ⟨_, rfl⟩
  have leads := Cursor.leads_pass isWord ⟨position, first :: following⟩
  rw [passed] at leads
  by_cases uncalled : Stops (· == '(') behind.skip.text
  · rw [operand_of_uncalled starts rfl passed uncalled]
    exact ⟨⟨_, leads⟩, .here spells_numeral⟩
  · obtain ⟨later, opened⟩ := exists_of_not_stops uncalled
    rw [operand_of_called size levels room starts rfl passed opened]
    obtain ⟨gap, isGap, leadsOpening⟩ := Cursor.exists_leads_behind opened
    obtain ⟨before, isGapBefore, leadsBefore⟩ :=
      Cursor.exists_leads_skip ⟨behind.skip.position + 1, later⟩
    have viableInside := Attempt.Viable.closed (Attempt.Viable.enter (fun room =>
      arguments_viable (operand_sound size levels) viable size room
        (Cursor.skip ⟨behind.skip.position + 1, later⟩)) 6 room)
    have viableCall := viableInside.after ((leads.trans leadsOpening).trans leadsBefore)
      fun text spelled => ⟨[')'], spells_call (isIdentifier_takeWhile starts) isGap isGapBefore
        spelled⟩
    split
    · trivial
    · next reach stuck =>
      rw [stuck] at viableCall
      exact ⟨⟨_, leads⟩, viableCall⟩
    · next argument others rest reach read =>
      rw [read] at viableCall
      exact viableCall

/-- By induction on the number of operands that may stand within one another. -/
theorem operand_viable (size levels room : Nat) (cursor : Cursor) :
    (operand size levels room cursor).Viable (Spells .operand) cursor := by
  induction levels generalizing room cursor with
  | zero => trivial
  | succ levels inductionHypothesis =>
      obtain ⟨position, text⟩ := cursor
      cases text with
      | nil => exact .here spells_numeral
      | cons character following =>
          by_cases other : startsPhrase character = false
          · rw [operand_of_other other]
            exact .here spells_numeral
          · simp only [startsPhrase, Bool.not_eq_false, Bool.or_eq_true, beq_iff_eq] at other
            obtain ⟨gap, isGap, leadsGap⟩ := Cursor.exists_leads_skip ⟨position + 1, following⟩
            have leads := (Cursor.leads_next position character following).trans leadsGap
            rcases other with ((digit | rfl) | rfl) | starts
            · rw [operand_of_isDigit digit]
              exact ⟨⟨_, Cursor.leads_pass Char.isDigit _⟩, .here spells_numeral⟩
            · rw [operand_of_minus]
              have viable := Attempt.Viable.enter (fun room =>
                inductionHypothesis room (Cursor.skip ⟨position + 1, following⟩)) 2 room
              exact (viable.map _).append leads fun _ => spells_negation isGap
            · rw [operand_of_parenthesis]
              have viable := Attempt.Viable.enter (fun room =>
                sum_viable (operand_sound size levels) inductionHypothesis size room
                  (Cursor.skip ⟨position + 1, following⟩)) 5 room
              exact viable.closed.after leads fun _ spells => ⟨[')'], spells_group isGap spells⟩
            · exact name_viable inductionHypothesis starts position following

end CounterMachine.Expression
