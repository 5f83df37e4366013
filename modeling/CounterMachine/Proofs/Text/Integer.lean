import CounterMachine.Proofs.Text.Decimal
import CounterMachine.Proofs.Text.WhiteSpace
import CounterMachine.Text.Integer

/-!
Contract: an integer that was written is read back as a user's.

Owns: that the accepted spellings of an integer hold its decimal text, of any length and with
either sign.

Does not own: the other spellings.
-/

set_option autoImplicit false

namespace CounterMachine.Text

theorem isWhiteSpace_of_isDigit {character : Char} (digit : character.isDigit = true) :
    isWhiteSpace character = false :=
  isWhiteSpace_of_isWord (isWord_of_isDigit digit)

/-- A text that neither starts nor ends with a character of the class is kept. -/
theorem stripOf_eq_self {belongs : Char → Bool} {text : List Char}
    (first : ∀ character ∈ text.head?, belongs character = false)
    (last : ∀ character ∈ text.getLast?, belongs character = false) :
    stripOf belongs text = text := by
  have front : text.dropWhile belongs = text := by
    cases text with
    | nil => rfl
    | cons character later =>
        rw [List.dropWhile_cons, first character rfl, if_neg Bool.false_ne_true]
  have back : text.reverse.dropWhile belongs = text.reverse := by
    rw [← List.head?_reverse] at last
    cases reversed : text.reverse with
    | nil => rfl
    | cons character earlier =>
        rw [reversed] at last
        rw [List.dropWhile_cons, last character rfl, if_neg Bool.false_ne_true]
  rw [stripOf, front, back, List.reverse_reverse]

private theorem ne_of_isDigit {character mark : Char} (digit : character.isDigit = true)
    (other : mark.isDigit = false) : character ≠ mark := by
  rintro rfl
  exact absurd digit (Bool.eq_false_iff.mp other)

private theorem laterDigits?_eq_some {digits : List Char}
    (ascii : ∀ character ∈ digits, character.isDigit = true) :
    laterDigits? digits = some digits := by
  induction digits with
  | nil => rfl
  | cons digit later inductionHypothesis =>
      have rest := inductionHypothesis fun other member =>
        ascii other (List.mem_cons_of_mem digit member)
      have here := ascii digit List.mem_cons_self
      have noUnderscore : digit ≠ '_' := ne_of_isDigit here (by decide)
      rw [laterDigits?, if_pos (isDecimalDigit_of_isDigit here), rest, Option.map_some]
      rintro other following rfl
      exact absurd rfl noUnderscore

private theorem groupedDigits?_decimalDigits (value : Nat) :
    groupedDigits? (decimalDigits value) = some (decimalDigits value) := by
  have ascii (character : Char) (member : character ∈ decimalDigits value) :=
    isDigit_of_mem_decimalDigits member
  cases written : decimalDigits value with
  | nil => exact absurd written (decimalDigits_ne_nil value)
  | cons digit later =>
      rw [written] at ascii
      rw [groupedDigits?, if_pos (isDecimalDigit_of_isDigit (ascii digit List.mem_cons_self)),
        laterDigits?_eq_some fun other member => ascii other (List.mem_cons_of_mem digit member),
        Option.map_some]

/-- Decimal text has no white space at its ends, whatever its sign. -/
private theorem stripOf_decimal (value : Int) :
    stripOf isWhiteSpace (decimal value).toList = (decimal value).toList := by
  have digits (number : Nat) (character : Char) (member : character ∈ decimalDigits number) :
      isWhiteSpace character = false :=
    isWhiteSpace_of_isDigit (isDigit_of_mem_decimalDigits member)
  have all : ∀ character ∈ (decimal value).toList, isWhiteSpace character = false := by
    cases value with
    | ofNat number =>
        rw [decimal, String.toList_ofList]
        exact digits number
    | negSucc number =>
        rw [decimal, String.toList_ofList]
        intro character member
        rcases List.mem_cons.mp member with rfl | inDigits
        · decide
        · exact digits (number + 1) character inDigits
  exact stripOf_eq_self (fun character member => all character (List.mem_of_mem_head? member))
    fun character member => all character (List.mem_of_mem_getLast? member)

/-- Every integer is read from its decimal text. -/
@[simp]
theorem readInteger?_decimal (value : Int) : readInteger? (decimal value) = some value := by
  rw [readInteger?, stripOf_decimal]
  cases value with
  | ofNat number =>
      have read : (groupedDigits? (decimalDigits number)).map
          (fun digits => (numeralValue digits : Int)) = some (number : Int) := by
        rw [groupedDigits?_decimalDigits, Option.map_some, numeralValue_decimalDigits]
      rw [decimal, String.toList_ofList]
      split
      · next digits written =>
        have minus : ('-' : Char) ∈ decimalDigits number := written ▸ List.mem_cons_self
        exact absurd (isDigit_of_mem_decimalDigits minus) (by decide)
      · next digits written =>
        have plus : ('+' : Char) ∈ decimalDigits number := written ▸ List.mem_cons_self
        exact absurd (isDigit_of_mem_decimalDigits plus) (by decide)
      · exact read
  | negSucc number =>
      rw [decimal, String.toList_ofList]
      show (groupedDigits? (decimalDigits (number + 1))).map _ = _
      rw [groupedDigits?_decimalDigits, Option.map_some, numeralValue_decimalDigits]
      rfl

end CounterMachine.Text
