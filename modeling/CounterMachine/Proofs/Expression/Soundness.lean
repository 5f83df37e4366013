import CounterMachine.Proofs.Expression.Combinators
import CounterMachine.Proofs.Expression.Meaning

/-!
Contract: what the reader of expressions returns was in the text.

Owns: that every reader which succeeds has taken a text off the front that the grammar derives,
and has returned a tree that means the tree of the derivation, within any bound on nesting.

Does not own: which of several readings is returned, and whether one is found at all.
-/

set_option autoImplicit false

namespace CounterMachine.Expression

open Text Source

/-- A reader that succeeds has taken a text off the front that can be read as the value. -/
def Sound {Value : Type} (reader : Cursor → Attempt Value) (Reading : Value → List Char → Prop) :
    Prop :=
  ∀ ⦃cursor value final reach⦄, reader cursor = .read value final reach →
    ∃ text, cursor.text = text ++ final.text ∧ Reading value text

/-- The value means a tree that the text spells. -/
def Spelled (level : Term → Phrase) (tree : Expression) (text : List Char) : Prop :=
  ∃ term, (level term).Derives text ∧ Means tree term

/-! ## Combinators -/

section Combinators

variable {Value Result : Type} {Reading : Value → List Char → Prop}
  {Outcome : Result → List Char → Prop}

theorem Sound.map {reader : Cursor → Attempt Value} (sound : Sound reader Reading)
    {convert : Value → Result}
    (holds : ∀ {value text}, Reading value text → Outcome (convert value) text) :
    Sound (fun cursor => (reader cursor).map convert) Outcome := by
  intro cursor result final reach read
  obtain ⟨value, readHere, rfl⟩ := map_eq_read.mp read
  obtain ⟨text, same, reading⟩ := sound readHere
  exact ⟨text, same, holds reading⟩

theorem enter_sound {reader : Nat → Cursor → Attempt Value}
    (sound : ∀ room, Sound (reader room) Reading) (cost room : Nat) :
    Sound (fun cursor => enter cost room fun room => reader room cursor) Reading := by
  intro cursor value final reach read
  exact sound _ (enter_eq_read read)

/-- White space may be passed first. -/
theorem Sound.skip {reader : Cursor → Attempt Value} (sound : Sound reader Reading) :
    Sound (fun cursor => reader cursor.skip)
      (fun value text => ∃ gap body, text = gap ++ body ∧ IsGap gap ∧ Reading value body) := by
  intro cursor value final reach read
  obtain ⟨gap, isGap, skipped⟩ := cursor.exists_gap
  obtain ⟨body, same, reading⟩ := sound read
  exact ⟨gap ++ body, by rw [skipped, same, List.append_assoc], gap, body, rfl, isGap, reading⟩

theorem Sound.closed {reader : Cursor → Attempt Value} (sound : Sound reader Reading) :
    Sound (fun cursor => closed (reader cursor))
      (fun value text => ∃ body after, text = body ++ after ++ [')'] ∧ IsGap after ∧
        Reading value body) := by
  intro cursor value final reach read
  obtain ⟨rest, readHere, closing⟩ := closed_eq_read read
  obtain ⟨body, same, reading⟩ := sound readHere
  obtain ⟨after, isGap, behind⟩ := rest.exists_gap
  refine ⟨body ++ after ++ [')'], ?_, body, after, rfl, isGap, reading⟩
  rw [same, behind, closing]
  simp only [List.append_assoc, List.cons_append, List.nil_append]

end Combinators

/-! ## Chains -/

section Chains

variable {Operator : Type} {operator? : Char → Option Operator} {level : Term → Phrase}

/-- The values mean the operands of a chain that the text spells. -/
def SpelledChain (operator? : Char → Option Operator) (level : Term → Phrase)
    (values : Expression × List (Operator × Expression)) (text : List Char) : Prop :=
  ∃ first terms, Chain operator? (fun term => (level term).Derives) first terms text ∧
    Means values.1 first ∧ List.Forall₂ Corresponds values.2 terms

/-- By induction on the bound on operands. -/
private theorem laterOperands_sound {operand : Cursor → Attempt Expression}
    (sound : Sound operand (Spelled level)) {fuel : Nat} {cursor final : Cursor}
    {reach furthest : Nat} {values : List (Operator × Expression)}
    (read : laterOperands operator? operand fuel cursor reach = .read values final furthest) :
    ∃ tail terms, cursor.text = tail ++ final.text ∧
      Tail operator? (fun term => (level term).Derives) terms tail ∧
      List.Forall₂ Corresponds values terms := by
  induction fuel generalizing cursor reach values with
  | zero =>
      cases read
      exact ⟨[], [], rfl, .nil, .nil⟩
  | succ fuel inductionHypothesis =>
      rcases exists_operator_or_absent operator? cursor with
        ⟨mark, operator, behind, found, sign⟩ | absent
      · rw [laterOperands_of_operator found sign] at read
        split at read
        · cases read
        · cases read
          exact ⟨[], [], rfl, .nil, .nil⟩
        · next value rest deeper readHere =>
          obtain ⟨later, readLater, rfl⟩ := map_eq_read.mp read
          obtain ⟨before, isGap, skipped⟩ := cursor.exists_gap
          obtain ⟨_, same, after, text, rfl, isGapAfter, term, derives, means⟩ :=
            sound.skip readHere
          obtain ⟨tail, terms, sameLater, isTail, correspond⟩ := inductionHypothesis readLater
          refine ⟨_, (operator, term) :: terms, ?_,
            .cons isGap sign isGapAfter derives isTail, .cons ⟨rfl, means⟩ correspond⟩
          have following : behind = after ++ text ++ rest.text := same
          simp only [skipped, found, following, sameLater, List.append_assoc, List.cons_append]
      · obtain ⟨_, readNothing, -⟩ := laterOperands_of_no_operator operand (fuel + 1) reach absent
        cases readNothing.symm.trans read
        exact ⟨[], [], rfl, .nil, .nil⟩

theorem chainOf_sound {operand : Nat → Cursor → Attempt Expression} (size : Nat)
    (sound : ∀ room, Sound (operand room) (Spelled level)) (room : Nat) :
    Sound (chainOf operator? operand size room) (SpelledChain operator? level) := by
  intro cursor value final reach read
  rw [chainOf_eq] at read
  split at read
  · cases read
  · cases read
  · rename_i first rest deeper readFirst
    obtain ⟨values, readLater, rfl⟩ := map_eq_read.mp read
    obtain ⟨text, same, term, derives, means⟩ := sound _ readFirst
    obtain ⟨tail, terms, sameLater, isTail, correspond⟩ :=
      laterOperands_sound (enter_sound sound 2 room) readLater
    refine ⟨text ++ tail, ?_, term, terms, .intro derives isTail, means, correspond⟩
    rw [same, sameLater, List.append_assoc]

theorem product_sound {operand : Nat → Cursor → Attempt Expression} (size : Nat)
    (sound : ∀ room, Sound (operand room) (Spelled .operand)) (room : Nat) :
    Sound (product operand size room) (Spelled .product) := by
  apply (chainOf_sound size sound room).map
  rintro ⟨first, others⟩ text ⟨term, terms, chain, means, correspond⟩
  exact ⟨_, .product chain, means_chained means correspond⟩

theorem sum_sound {operand : Nat → Cursor → Attempt Expression} (size : Nat)
    (sound : ∀ room, Sound (operand room) (Spelled .operand)) (room : Nat) :
    Sound (sum operand size room) (Spelled .sum) := by
  apply (chainOf_sound size (product_sound size sound) room).map
  rintro ⟨first, others⟩ text ⟨term, terms, chain, means, correspond⟩
  exact ⟨_, .sum chain, means_chained means correspond⟩

theorem arguments_sound {operand : Nat → Cursor → Attempt Expression} (size : Nat)
    (sound : ∀ room, Sound (operand room) (Spelled .operand)) (room : Nat) :
    Sound (arguments operand size room) (fun values text => ∃ first others,
      (Phrase.arguments first others).Derives text ∧ Means values.1 first ∧
        List.Forall₂ Means values.2 others) := by
  apply (chainOf_sound size (sum_sound size sound) room).map
  rintro ⟨first, others⟩ text ⟨term, terms, chain, means, correspond⟩
  refine ⟨_, _, .arguments chain, means, ?_⟩
  rw [List.forall₂_map_left_iff, List.forall₂_map_right_iff]
  exact correspond.imp fun _ _ => And.right

end Chains

/-! ## Operands -/

private theorem consists_takeWhile (belongs : Char → Bool) (text : List Char) :
    Consists belongs (text.takeWhile belongs) :=
  (takeWhile_dropWhile_iff.mp ⟨rfl, rfl⟩).2.1

theorem isIdentifier_takeWhile {first : Char} {following : List Char}
    (starts : startsName first = true) :
    IsIdentifier ((first :: following).takeWhile isWord) := by
  refine ⟨⟨first, ?_, starts⟩, consists_takeWhile isWord _⟩
  rw [List.takeWhile_cons_of_pos (isWord_of_startsName starts)]
  rfl

private theorem name_sound {size levels room : Nat}
    (sound : ∀ room, Sound (operand size levels room) (Spelled .operand)) {first : Char}
    {following : List Char} {position reach : Nat} {value : Expression} {final : Cursor}
    (starts : startsName first = true)
    (read : operand size (levels + 1) room ⟨position, first :: following⟩ =
      .read value final reach) :
    ∃ text, first :: following = text ++ final.text ∧ Spelled .operand value text := by
  obtain ⟨letters, taken⟩ : ∃ letters, (first :: following).takeWhile isWord = letters :=
    ⟨_, rfl⟩
  obtain ⟨behind, passed⟩ : ∃ behind, Cursor.pass isWord ⟨position, first :: following⟩ = behind :=
    ⟨_, rfl⟩
  have isIdentifier : IsIdentifier letters := by
    rw [← taken]
    exact isIdentifier_takeWhile starts
  have same : first :: following = letters ++ behind.text := by
    rw [← taken, ← passed]
    exact List.takeWhile_append_dropWhile.symm
  have register : ∃ text, first :: following = text ++ behind.text ∧
      Spelled .operand (.register (lowered letters)) text :=
    ⟨letters, same, .identifier letters, .identifier isIdentifier, means_register letters⟩
  by_cases uncalled : Stops (· == '(') behind.skip.text
  · rw [operand_of_uncalled starts taken passed uncalled] at read
    cases read
    exact register
  · obtain ⟨later, opened⟩ := exists_of_not_stops uncalled
    rw [operand_of_called size levels room starts taken passed opened] at read
    split at read
    · cases read
    · cases read
      exact register
    · rename_i argument others rest deeper readHere
      cases read
      obtain ⟨gap, isGap, skipped⟩ := behind.exists_gap
      obtain ⟨_, inside, _, after, rfl, isGapAfter, before, text, rfl, isGapBefore, term, terms,
        derives, means, othersMean⟩ :=
        (enter_sound (fun room => (arguments_sound size sound room).skip) 6 room).closed readHere
      have enclosed : later = before ++ text ++ after ++ [')'] ++ final.text := inside
      refine ⟨_, ?_, _, .call isIdentifier isGap isGapBefore derives isGapAfter,
        means_call means othersMean⟩
      rw [same, skipped, opened, enclosed]
      simp only [List.append_assoc, List.cons_append]

/-- By induction on the number of operands that may stand within one another. -/
theorem operand_sound (size levels room : Nat) :
    Sound (operand size levels room) (Spelled .operand) := by
  induction levels generalizing room with
  | zero =>
      intro cursor value final reach read
      cases read
  | succ levels inductionHypothesis =>
      intro cursor value final reach read
      obtain ⟨position, text⟩ := cursor
      cases text with
      | nil => cases read
      | cons character following =>
          by_cases other : startsPhrase character = false
          · rw [operand_of_other other] at read
            cases read
          · simp only [startsPhrase, Bool.not_eq_false, Bool.or_eq_true, beq_iff_eq] at other
            rcases other with ((digit | rfl) | rfl) | starts
            · rw [operand_of_isDigit digit] at read
              cases read
              refine ⟨_, List.takeWhile_append_dropWhile.symm, _, .literal ⟨?_, ?_⟩,
                means_literal _⟩
              · rw [List.takeWhile_cons_of_pos digit]
                exact List.cons_ne_nil _ _
              · exact consists_takeWhile Char.isDigit _
            · rw [operand_of_minus] at read
              obtain ⟨inner, readInner, rfl⟩ := map_eq_read.mp read
              obtain ⟨_, inside, gap, text, rfl, isGap, term, derives, means⟩ :=
                (inductionHypothesis _).skip (enter_eq_read readInner)
              have behind : following = gap ++ text ++ final.text := inside
              refine ⟨'-' :: (gap ++ text), ?_, _, .negation isGap derives, means_negation means⟩
              rw [behind, List.cons_append]
            · rw [operand_of_parenthesis] at read
              obtain ⟨_, inside, _, after, rfl, isGapAfter, before, text, rfl, isGap, term,
                derives, means⟩ := (enter_sound (fun room =>
                  (sum_sound size inductionHypothesis room).skip) 5 room).closed read
              have behind : following = before ++ text ++ after ++ [')'] ++ final.text := inside
              refine ⟨'(' :: (before ++ text ++ after ++ [')']), ?_, _,
                .parentheses isGap derives isGapAfter, means⟩
              rw [behind, List.cons_append]
            · exact name_sound inductionHypothesis starts read

end CounterMachine.Expression
