import CounterMachine.Proofs.Expression.Lexemes

/-!
Contract: the parts that the reader of expressions is made of, one step at a time.

Owns: what an attempt that succeeded or was stuck says about the attempt it was made from, how
white space is passed, what can happen behind an operand of a chain, and what is tried at each
first character of an operand.

Does not own: what the parts read, and the texts that the grammar derives.
-/

set_option autoImplicit false

namespace CounterMachine.Expression

open Text Source

/-! ## White space -/

namespace Cursor

variable {cursor : Cursor} {gap rest : List Char}

theorem exists_gap (cursor : Cursor) :
    ∃ gap, Consists isWhiteSpace gap ∧ cursor.text = gap ++ cursor.skip.text := by
  obtain ⟨same, isGap, -⟩ := takeWhile_dropWhile_iff.mp
    (And.intro (rfl : cursor.text.takeWhile isWhiteSpace = _) rfl)
  exact ⟨_, isGap, same⟩

/-- The place behind a run of a class is where the class stops. -/
theorem pass_eq {belongs : Char → Bool} {run : List Char} (text : cursor.text = run ++ rest)
    (consists : Consists belongs run) (stops : Stops belongs rest) :
    cursor.pass belongs = ⟨cursor.position + run.length, rest⟩ := by
  obtain ⟨taken, dropped⟩ := takeWhile_dropWhile_iff.mpr ⟨text, consists, stops⟩
  rw [pass, taken, dropped]

theorem skip_text (text : cursor.text = gap ++ rest) (isGap : Consists isWhiteSpace gap)
    (stops : Stops isWhiteSpace rest) : cursor.skip.text = rest := by
  rw [skip, pass_eq text isGap stops]

theorem length_skip_le (cursor : Cursor) : cursor.skip.text.length ≤ cursor.text.length := by
  obtain ⟨gap, -, same⟩ := cursor.exists_gap
  rw [same, List.length_append]
  omega

end Cursor

/-! ## Attempts -/

section Attempts

variable {Value Result : Type} {value : Value} {final : Cursor} {reach : Nat}

theorem enter_eq_read {cost room : Nat} {attempt : Nat → Attempt Value}
    (read : enter cost room attempt = .read value final reach) :
    attempt (room - cost) = .read value final reach := by
  unfold enter at read
  split at read
  · cases read
  · exact read

theorem enter_ne_tooDeep {cost room : Nat} {attempt : Nat → Attempt Value}
    (within : enter cost room attempt ≠ .tooDeep) :
    enter cost room attempt = attempt (room - cost) := by
  unfold enter at within ⊢
  split
  · rename_i short
    exact absurd (if_pos short) within
  · rfl

theorem enter_eq_stuck {cost room : Nat} {attempt : Nat → Attempt Value}
    (stuck : enter cost room attempt = .stuck reach) : attempt (room - cost) = .stuck reach := by
  unfold enter at stuck
  split at stuck
  · cases stuck
  · exact stuck

theorem map_eq_read {convert : Value → Result} {attempt : Attempt Value} {result : Result} :
    attempt.map convert = .read result final reach ↔
      ∃ value, attempt = .read value final reach ∧ convert value = result := by
  cases attempt with
  | read known rest furthest =>
      simp only [Attempt.map, Attempt.read.injEq]
      constructor
      · rintro ⟨converted, same⟩
        exact ⟨known, ⟨rfl, same⟩, converted⟩
      · rintro ⟨_, ⟨rfl, same⟩, converted⟩
        exact ⟨converted, same⟩
  | stuck furthest => simp [Attempt.map]
  | tooDeep => simp [Attempt.map]

theorem map_eq_tooDeep {convert : Value → Result} {attempt : Attempt Value} :
    attempt.map convert = .tooDeep ↔ attempt = .tooDeep := by
  cases attempt with
  | read known rest furthest => simp [Attempt.map]
  | stuck furthest => simp [Attempt.map]
  | tooDeep => simp [Attempt.map]

theorem map_eq_stuck {convert : Value → Result} {attempt : Attempt Value} :
    attempt.map convert = .stuck reach ↔ attempt = .stuck reach := by
  cases attempt with
  | read known rest furthest => simp [Attempt.map]
  | stuck furthest => simp [Attempt.map]
  | tooDeep => simp [Attempt.map]

theorem closed_eq_read {attempt : Attempt Value}
    (read : closed attempt = .read value final reach) :
    ∃ rest, attempt = .read value rest reach ∧ rest.skip.text = ')' :: final.text := by
  cases attempt with
  | read known rest furthest =>
      rw [closed] at read
      split at read
      · rename_i position behind found
        cases read
        exact ⟨rest, rfl, by rw [found]⟩
      · cases read
  | stuck furthest => cases read
  | tooDeep => cases read

theorem closed_of_unclosed {rest : Cursor} (unclosed : Stops (· == ')') rest.skip.text) :
    closed (.read value rest reach) = .stuck reach := by
  rw [closed]
  split
  · next position behind found =>
    rw [found] at unclosed
    exact absurd (stops_cons.mp unclosed) (by decide)
  · rfl

theorem closed_of_read {rest : Cursor} {behind : List Char}
    (closing : rest.skip.text = ')' :: behind) :
    closed (.read value rest reach) = .read value ⟨rest.skip.position + 1, behind⟩ reach := by
  rw [closed]
  generalize rest.skip = next at closing ⊢
  obtain ⟨position, text⟩ := next
  cases closing
  rfl

end Attempts

/-! ## Chains -/

section Chains

variable {Operator : Type} {operator? : Char → Option Operator} {cursor : Cursor} {reach : Nat}

/-- Behind the white space stands an operator of the chain, or none. -/
theorem exists_operator_or_absent (operator? : Char → Option Operator) (cursor : Cursor) :
    (∃ mark operator behind, cursor.skip.text = mark :: behind ∧ operator? mark = some operator) ∨
      ∀ mark ∈ cursor.skip.text.head?, operator? mark = none := by
  cases cursor.skip.text with
  | nil => exact .inr nofun
  | cons mark behind =>
      cases sign : operator? mark with
      | some operator => exact .inl ⟨mark, operator, behind, rfl, sign⟩
      | none =>
          right
          rintro _ ⟨⟩
          exact sign

/-- Where no operator stands, the chain ends, and nothing was looked for but that operator. -/
theorem laterOperands_of_no_operator (operand : Cursor → Attempt Expression) (fuel reach : Nat)
    (absent : ∀ mark ∈ cursor.skip.text.head?, operator? mark = none) :
    ∃ furthest, laterOperands operator? operand fuel cursor reach = .read [] cursor furthest ∧
      (furthest = reach ∨ furthest = cursor.skip.position) := by
  cases fuel with
  | zero => exact ⟨reach, rfl, .inl rfl⟩
  | succ fuel =>
      rw [laterOperands]
      split
      · exact ⟨reach, rfl, .inl rfl⟩
      · cases found : cursor.skip.text with
        | nil =>
            simp only [found]
            exact ⟨_, rfl, .inr rfl⟩
        | cons mark behind =>
            rw [found] at absent
            simp only [found, absent mark rfl]
            exact ⟨_, rfl, max_choice reach cursor.skip.position⟩

/-- Behind an operator an operand is tried; without one the operator is not read either. -/
theorem laterOperands_of_operator {operand : Cursor → Attempt Expression} {fuel : Nat}
    {mark : Char} {operator : Operator} {behind : List Char}
    (found : cursor.skip.text = mark :: behind) (sign : operator? mark = some operator) :
    laterOperands operator? operand (fuel + 1) cursor reach =
      match operand (Cursor.skip ⟨cursor.skip.position + 1, behind⟩) with
      | .tooDeep => .tooDeep
      | .stuck deeper => .read [] cursor (max reach deeper)
      | .read value rest deeper =>
          (laterOperands operator? operand fuel rest (max reach deeper)).map fun later =>
            (operator, value) :: later := by
  have visible : ¬ cursor.text.isEmpty = true := by
    intro empty
    have shorter := cursor.length_skip_le
    rw [found, List.isEmpty_iff.mp empty] at shorter
    exact absurd shorter (Nat.not_succ_le_zero _)
  rw [laterOperands, if_neg visible]
  simp only [found, sign]
  cases operand (Cursor.skip ⟨cursor.skip.position + 1, behind⟩) with
  | tooDeep => rfl
  | stuck deeper => rfl
  | read value rest deeper =>
      cases later : laterOperands operator? operand fuel rest (max reach deeper) with
      | tooDeep => simp only [later, Attempt.map]
      | stuck furthest => simp only [later, Attempt.map]
      | read values final furthest => simp only [later, Attempt.map]

/-- Further operands are never missed. -/
theorem laterOperands_ne_stuck (operand : Cursor → Attempt Expression) (fuel : Nat)
    (cursor : Cursor) (reach furthest : Nat) :
    laterOperands operator? operand fuel cursor reach ≠ .stuck furthest := by
  induction fuel generalizing cursor reach with
  | zero => exact nofun
  | succ fuel inductionHypothesis =>
      rcases exists_operator_or_absent operator? cursor with
        ⟨mark, operator, behind, found, sign⟩ | absent
      · rw [laterOperands_of_operator found sign]
        split
        · exact nofun
        · exact nofun
        · exact mt map_eq_stuck.mp (inductionHypothesis _ _)
      · obtain ⟨_, read, -⟩ := laterOperands_of_no_operator operand (fuel + 1) reach absent
        rw [read]
        exact nofun

theorem chainOf_eq (operator? : Char → Option Operator)
    (operand : Nat → Cursor → Attempt Expression) (size room : Nat) (cursor : Cursor) :
    chainOf operator? operand size room cursor =
      match operand room cursor with
      | .tooDeep => .tooDeep
      | .stuck reach => .stuck reach
      | .read first rest reach =>
          (laterOperands operator? (fun following => enter 2 room fun room =>
            operand room following) size rest reach).map fun later => (first, later) := by
  unfold chainOf
  cases operand room cursor with
  | tooDeep => rfl
  | stuck reach => rfl
  | read first rest reach =>
      simp only
      cases laterOperands operator? (fun following => enter 2 room fun room =>
          operand room following) size rest reach with
      | tooDeep => rfl
      | stuck furthest => rfl
      | read values final furthest => rfl

/-- A chain is missed where its first operand is. -/
theorem chainOf_eq_stuck {operand : Nat → Cursor → Attempt Expression} {size room : Nat}
    (stuck : chainOf operator? operand size room cursor = .stuck reach) :
    operand room cursor = .stuck reach := by
  rw [chainOf_eq] at stuck
  split at stuck
  · cases stuck
  · next missed =>
    cases stuck
    exact missed
  · exact absurd (map_eq_stuck.mp stuck) (laterOperands_ne_stuck _ _ _ _ _)

end Chains

/-! ## Operands -/

section Operands

variable {size levels room position : Nat} {following : List Char}

theorem operand_of_minus :
    operand size (levels + 1) room ⟨position, '-' :: following⟩ =
      (enter 2 room fun room =>
        operand size levels room (Cursor.skip ⟨position + 1, following⟩)).map .negation := by
  rw [operand, if_pos rfl]

theorem operand_of_parenthesis :
    operand size (levels + 1) room ⟨position, '(' :: following⟩ =
      closed (enter 5 room fun room =>
        sum (operand size levels) size room (Cursor.skip ⟨position + 1, following⟩)) := by
  rw [operand, if_neg (by decide), if_pos rfl]

theorem operand_of_isDigit {first : Char} (digit : first.isDigit = true) :
    operand size (levels + 1) room ⟨position, first :: following⟩ =
      .read (.literal ((first :: following).takeWhile Char.isDigit))
        (Cursor.pass Char.isDigit ⟨position, first :: following⟩) position := by
  have notMinus : first ≠ '-' := by
    rintro rfl
    exact absurd digit (by decide)
  have notParenthesis : first ≠ '(' := by
    rintro rfl
    exact absurd digit (by decide)
  rw [operand, if_neg notMinus, if_neg notParenthesis, if_pos digit]

/-- A name is read at least as a register. -/
private theorem operand_of_startsName {first : Char} (starts : startsName first = true) :
    operand size (levels + 1) room ⟨position, first :: following⟩ =
      match (Cursor.pass isWord ⟨position, first :: following⟩).skip with
      | ⟨opening, '(' :: later⟩ =>
          match closed (enter 6 room fun room =>
              arguments (operand size levels) size room (Cursor.skip ⟨opening + 1, later⟩)) with
          | .tooDeep => .tooDeep
          | .stuck reach => .read (.register (lowered ((first :: following).takeWhile isWord)))
              (Cursor.pass isWord ⟨position, first :: following⟩) reach
          | .read (argument, others) rest reach =>
              .read (.call (lowered ((first :: following).takeWhile isWord)) argument others) rest
                reach
      | _ => .read (.register (lowered ((first :: following).takeWhile isWord)))
          (Cursor.pass isWord ⟨position, first :: following⟩) position := by
  have notMinus : first ≠ '-' := by
    rintro rfl
    exact absurd starts (by decide)
  have notParenthesis : first ≠ '(' := by
    rintro rfl
    exact absurd starts (by decide)
  rw [operand, if_neg notMinus, if_neg notParenthesis, if_neg, if_pos starts]
  · rfl
  · rw [isDigit_of_startsName starts]
    exact Bool.false_ne_true

/-- So a name is never missed. -/
theorem operand_ne_stuck_of_startsName {first : Char} (starts : startsName first = true)
    (reach : Nat) :
    operand size (levels + 1) room ⟨position, first :: following⟩ ≠ .stuck reach := by
  rw [operand_of_startsName starts]
  split
  · split
    · exact nofun
    · exact nofun
    · exact nofun
  · exact nofun

theorem operand_of_uncalled {first : Char} {letters : List Char} {behind : Cursor}
    (starts : startsName first = true)
    (taken : (first :: following).takeWhile isWord = letters)
    (passed : Cursor.pass isWord ⟨position, first :: following⟩ = behind)
    (uncalled : Stops (· == '(') behind.skip.text) :
    operand size (levels + 1) room ⟨position, first :: following⟩ =
      .read (.register (lowered letters)) behind position := by
  rw [operand_of_startsName starts, taken, passed]
  split
  · rename_i opening later found
    rw [found] at uncalled
    exact absurd (stops_cons.mp uncalled) (by decide)
  · rfl

theorem operand_of_called (size levels room : Nat) {first : Char} {letters later : List Char}
    {behind : Cursor} (starts : startsName first = true)
    (taken : (first :: following).takeWhile isWord = letters)
    (passed : Cursor.pass isWord ⟨position, first :: following⟩ = behind)
    (opened : behind.skip.text = '(' :: later) :
    operand size (levels + 1) room ⟨position, first :: following⟩ =
      match closed (enter 6 room fun room =>
          arguments (operand size levels) size room
            (Cursor.skip ⟨behind.skip.position + 1, later⟩)) with
      | .tooDeep => .tooDeep
      | .stuck reach => .read (.register (lowered letters)) behind reach
      | .read (argument, others) rest reach =>
          .read (.call (lowered letters) argument others) rest reach := by
  rw [operand_of_startsName starts, taken, passed]
  generalize behind.skip = next at opened ⊢
  obtain ⟨opening, text⟩ := next
  cases opened
  rfl

/-- Nothing else begins an operand. -/
theorem operand_of_other {first : Char} (other : startsPhrase first = false) :
    operand size (levels + 1) room ⟨position, first :: following⟩ = .stuck position := by
  simp only [startsPhrase, Bool.or_eq_false_iff, beq_eq_false_iff_ne] at other
  obtain ⟨⟨⟨notDigit, notMinus⟩, notParenthesis⟩, notName⟩ := other
  rw [operand, if_neg notMinus, if_neg notParenthesis, if_neg (Bool.eq_false_iff.mp notDigit),
    if_neg (Bool.eq_false_iff.mp notName)]

end Operands

end CounterMachine.Expression
