import CounterMachine.Proofs.Expression.Grammar
import CounterMachine.Proofs.Text.WhiteSpace
import Mathlib.Data.Bool.AllAny

/-!
Contract: where the phrases of an expression begin and where they end.

Owns: the characters that a phrase begins with, the marks that may follow each kind of phrase,
and that both are apart from white space and from what a phrase could go on with.

Does not own: the reader. Nothing here is about columns or nesting.

## Why what follows matters

Names and numerals end where their class of characters ends, and a chain ends where no further
operator stands. Behind the white space, a phrase that is complete is followed by one of its
closing marks or by nothing; each of these stops names, numerals and chains alike.
-/

set_option autoImplicit false

namespace CounterMachine.Expression

open Text Source

/-! ## Beginnings -/

/-- The characters that a phrase can begin with. -/
def startsPhrase (character : Char) : Bool :=
  character.isDigit || character == '-' || character == '(' || startsName character

/-- Names begin with a letter of one of two ranges, or with the underscore between them. -/
private theorem bounds_of_startsName {character : Char} (starts : startsName character = true) :
    '9'.toNat < character.toNat ∧ character.toNat ≤ 'z'.toNat := by
  rcases Bool.or_eq_true_iff.mp starts with letter | underscore
  · rcases Bool.or_eq_true_iff.mp letter with capital | small
    · have ⟨low, high⟩ : 'A'.toNat ≤ character.toNat ∧ character.toNat ≤ 'Z'.toNat :=
        of_decide_eq_true capital
      exact ⟨Nat.lt_of_lt_of_le (by decide) low, Nat.le_trans high (by decide)⟩
    · obtain ⟨low, high⟩ := Bool.and_eq_true_iff.mp small
      have lowest : 'a'.toNat ≤ character.toNat := of_decide_eq_true low
      exact ⟨Nat.lt_of_lt_of_le (by decide) lowest, of_decide_eq_true high⟩
  · rw [eq_of_beq underscore]
    decide

private theorem isWord_of_code :
    ∀ code : Fin 128, startsName (Char.ofNat code) = true → isWord (Char.ofNat code) = true := by
  decide

theorem isWord_of_startsName {character : Char} (starts : startsName character = true) :
    isWord character = true := by
  have ascii : character.toNat < 128 :=
    Nat.lt_of_le_of_lt (bounds_of_startsName starts).2 (by decide)
  have word := isWord_of_code ⟨character.toNat, ascii⟩
  rw [Char.ofNat_toNat] at word
  exact word starts

theorem isDigit_of_startsName {character : Char} (starts : startsName character = true) :
    character.isDigit = false := by
  rw [Bool.eq_false_iff]
  intro digit
  have high : character.toNat ≤ '9'.toNat := (Char.isDigit_iff_toNat.mp digit).2
  exact absurd (bounds_of_startsName starts).1 (Nat.not_lt.mpr high)

theorem isWhiteSpace_of_startsPhrase {character : Char} (starts : startsPhrase character = true) :
    isWhiteSpace character = false := by
  simp only [startsPhrase, Bool.or_eq_true, beq_iff_eq] at starts
  rcases starts with ((digit | rfl) | rfl) | name
  · exact isWhiteSpace_of_isWord (isWord_of_isDigit digit)
  · decide
  · decide
  · exact isWhiteSpace_of_isWord (isWord_of_startsName name)

/-- By induction on the derivation: a chain begins as its first operand does. -/
theorem Phrase.Derives.starts {phrase : Phrase} {text : List Char}
    (derives : phrase.Derives text) :
    ∃ first later, text = first :: later ∧ startsPhrase first = true := by
  induction derives with
  | literal isRun =>
      obtain ⟨nonempty, consists⟩ := isRun
      obtain ⟨first, later, rfl⟩ := List.exists_cons_of_ne_nil nonempty
      have digit := consists first List.mem_cons_self
      exact ⟨first, later, rfl, by simp [startsPhrase, digit]⟩
  | identifier isIdentifier =>
      obtain ⟨first, later, rfl, name⟩ := isIdentifier.exists_cons
      exact ⟨first, later, rfl, by simp [startsPhrase, name]⟩
  | negation => exact ⟨_, _, rfl, rfl⟩
  | parentheses => exact ⟨_, _, rfl, rfl⟩
  | call isIdentifier =>
      obtain ⟨first, later, rfl, name⟩ := isIdentifier.exists_cons
      exact ⟨first, _, rfl, by simp [startsPhrase, name]⟩
  | factor operand starts => exact starts
  | summand product starts => exact starts
  | argument sum starts => exact starts
  | multiplied product isGap sign isGapAfter operand starts
  | added sum isGap sign isGapAfter product starts
  | listed arguments isGap isGapAfter sum starts =>
      obtain ⟨first, later, rfl, begins⟩ := starts
      exact ⟨first, _, rfl, begins⟩

theorem Phrase.Derives.stops_gap {phrase : Phrase} {text : List Char}
    (derives : phrase.Derives text) (rest : List Char) : Stops isWhiteSpace (text ++ rest) := by
  obtain ⟨first, later, rfl, starts⟩ := derives.starts
  exact stops_cons.mpr (isWhiteSpace_of_startsPhrase starts)

/-! ## Ends -/

/-- The marks that may follow the arguments of a call. -/
def argumentsEnds : List Char := [')']

/-- The marks that may follow a sum. -/
def sumEnds : List Char := ',' :: argumentsEnds

/-- The marks that may follow a product. -/
def productEnds : List Char := '+' :: '-' :: sumEnds

/-- The marks that may follow an operand. -/
def operandEnds : List Char := '*' :: '/' :: '%' :: productEnds

/-- Behind the white space there is nothing, or one of the marks. -/
def Followed (ends rest : List Char) : Prop :=
  ∀ character ∈ (rest.dropWhile isWhiteSpace).head?, character ∈ ends

theorem followed_nil (ends : List Char) : Followed ends [] := by
  intro character absent
  cases absent

/-- Any text follows what it begins with itself. -/
theorem exists_followed (rest : List Char) : ∃ ends, Followed ends rest :=
  ⟨(rest.dropWhile isWhiteSpace).head?.toList, fun _ => Option.mem_toList.mpr⟩

@[simp]
theorem followed_append_iff {ends gap rest : List Char} (isGap : IsGap gap) :
    Followed ends (gap ++ rest) ↔ Followed ends rest := by
  rw [Followed, Followed, List.dropWhile_append_of_pos isGap]

theorem followed_cons_iff {ends rest : List Char} {mark : Char}
    (visible : isWhiteSpace mark = false) : Followed ends (mark :: rest) ↔ mark ∈ ends := by
  rw [Followed, dropWhile_of_stops (stops_cons.mpr visible)]
  simp

/-- A closing parenthesis ends what is in the parentheses. -/
theorem followed_closing {ends gap rest : List Char} (isGap : IsGap gap)
    (closing : ')' ∈ ends) : Followed ends (gap ++ ')' :: rest) := by
  rw [followed_append_iff isGap, followed_cons_iff (by decide)]
  exact closing

/-- What a phrase is followed by does not go on with a class that holds neither its marks nor
white space. -/
theorem Followed.stops {ends rest : List Char} {belongs : Char → Bool}
    (followed : Followed ends rest) (marks : ∀ mark ∈ ends, belongs mark = false)
    (spaces : ∀ character, isWhiteSpace character = true → belongs character = false) :
    Stops belongs rest := by
  cases rest with
  | nil => exact stops_nil
  | cons first later =>
      rw [stops_cons]
      by_cases space : isWhiteSpace first = true
      · exact spaces first space
      · exact marks first ((followed_cons_iff (Bool.eq_false_iff.mpr space)).mp followed)

theorem Followed.stops_word {rest : List Char} (followed : Followed operandEnds rest) :
    Stops isWord rest :=
  followed.stops (List.all_iff_forall_prop.mp (by decide)) fun _ =>
    isWord_of_isWhiteSpace

theorem Followed.stops_digit {rest : List Char} (followed : Followed operandEnds rest) :
    Stops Char.isDigit rest := by
  apply followed.stops (List.all_iff_forall_prop.mp (by decide))
  intro character space
  rw [Bool.eq_false_iff]
  intro digit
  rw [isWhiteSpace_of_isWord (isWord_of_isDigit digit)] at space
  cases space

/-- A name that is called ends before the parenthesis. -/
theorem stops_name {gap rest : List Char} (isGap : IsGap gap) :
    Stops isWord (gap ++ '(' :: rest) := by
  cases gap with
  | nil => exact stops_cons.mpr (by decide)
  | cons space later =>
      exact stops_cons.mpr (isWord_of_isWhiteSpace (isGap space List.mem_cons_self))

/-! ## Marks between operands -/

/-- The operators of a chain are among the marks that follow its operands, and are not among
those that follow the chain. -/
structure Separates {Operator : Type} (operator? : Char → Option Operator)
    (inner outer : List Char) : Prop where
  inner_of_operator : ∀ {mark operator}, operator? mark = some operator → mark ∈ inner
  inner_of_outer : ∀ {mark}, mark ∈ outer → mark ∈ inner
  not_operator : ∀ mark ∈ outer, operator? mark = none
  visible : ∀ mark ∈ inner, isWhiteSpace mark = false

theorem separates_product :
    Separates BinaryOperator.multiplicative? operandEnds productEnds where
  inner_of_operator := by
    intro mark operator sign
    unfold BinaryOperator.multiplicative? at sign
    split at sign
    · decide
    · decide
    · decide
    · cases sign
  inner_of_outer := by
    intro mark member
    simp only [operandEnds, List.mem_cons, member, or_true]
  not_operator := List.all_iff_forall_prop.mp (by decide)
  visible := List.all_iff_forall_prop.mp (by decide)

theorem separates_sum : Separates BinaryOperator.additive? productEnds sumEnds where
  inner_of_operator := by
    intro mark operator sign
    unfold BinaryOperator.additive? at sign
    split at sign
    · decide
    · decide
    · cases sign
  inner_of_outer := by
    intro mark member
    simp only [productEnds, List.mem_cons, member, or_true]
  not_operator := List.all_iff_forall_prop.mp (by decide)
  visible := List.all_iff_forall_prop.mp (by decide)

theorem separates_arguments : Separates separator? sumEnds argumentsEnds where
  inner_of_operator := by
    intro mark operator sign
    rw [eq_comma_of_separator? sign]
    decide
  inner_of_outer := by
    intro mark member
    simp only [sumEnds, List.mem_cons, member, or_true]
  not_operator := List.all_iff_forall_prop.mp (by decide)
  visible := List.all_iff_forall_prop.mp (by decide)

namespace Separates

variable {Operator : Type} {operator? : Char → Option Operator} {inner outer : List Char}
  {Operand : Term → List Char → Prop} {others : List (Operator × Term)} {tail rest : List Char}

/-- An operand is followed by the rest of its chain, or by what follows the chain. -/
theorem followed_tail (separates : Separates operator? inner outer)
    (isTail : Tail operator? Operand others tail) (followed : Followed outer rest) :
    Followed inner (tail ++ rest) := by
  cases isTail with
  | nil =>
      intro mark found
      exact separates.inner_of_outer (followed mark found)
  | cons isGap sign isGapAfter operand later =>
      have member := separates.inner_of_operator sign
      rw [List.append_assoc, followed_append_iff isGap, List.cons_append,
        followed_cons_iff (separates.visible _ member)]
      exact member

/-- Behind a chain stands no further operator. -/
theorem not_followed_operator (separates : Separates operator? inner outer) {gap : List Char}
    {mark : Char} {operator : Operator} (isGap : IsGap gap)
    (sign : operator? mark = some operator) : ¬ Followed outer (gap ++ mark :: rest) := by
  have member := separates.inner_of_operator sign
  rw [followed_append_iff isGap, followed_cons_iff (separates.visible _ member)]
  intro outside
  rw [separates.not_operator _ outside] at sign
  cases sign

end Separates

end CounterMachine.Expression
