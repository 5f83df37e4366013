import CounterMachine.RegisterName
import CounterMachine.Text.Word
import Mathlib.Data.List.Basic
import Mathlib.Data.Nat.Digits.Defs

/-!
Contract: a written number reads back as itself.

Owns: the ASCII digits as decimal digits of every script and as word characters, numerals as
positional values, the value of a written number, and the numbered registers as a bijection
with their indices.

Does not own: the numerals that are accepted and never written, such as those with leading
zeros.
-/

set_option autoImplicit false

namespace CounterMachine

namespace Text

/-! ## ASCII digits -/

private theorem toNat_bounds {character : Char} (digit : character.isDigit = true) :
    48 ≤ character.toNat ∧ character.toNat ≤ 57 :=
  Char.isDigit_iff_toNat.mp digit

theorem digitValue?_of_isDigit {character : Char} (digit : character.isDigit = true) :
    digitValue? character = some (character.toNat - '0'.toNat) := by
  obtain ⟨low, high⟩ := toNat_bounds digit
  have place : character.toNat - 48 < 10 := by omega
  rw [digitValue?, decimalDigitRanges, CodeRanges.offset?, if_neg (Nat.not_lt.mpr low),
    if_pos high, Option.map_some, Nat.mod_eq_of_lt place]
  rfl

theorem isDecimalDigit_of_isDigit {character : Char} (digit : character.isDigit = true) :
    isDecimalDigit character = true := by
  rw [isDecimalDigit_eq_isSome_digitValue, digitValue?_of_isDigit digit]
  rfl

theorem isWord_of_isDigit {character : Char} (digit : character.isDigit = true) :
    isWord character = true := by
  obtain ⟨low, high⟩ := toNat_bounds digit
  rw [isWord, wordRanges, CodeRanges.covers, if_neg (Nat.not_lt.mpr low), if_pos high]

/-! ## Values of numerals -/

/-- A numeral stands for the value of its digits in base ten, the last digit being the lowest. -/
theorem numeralValue_eq_ofDigits {digits : List Char} (spelled : isNumeral digits = true) :
    numeralValue digits = Nat.ofDigits 10 (digits.filterMap digitValue?).reverse := by
  have values : digits.filterMap digitValue? =
      digits.map fun digit => (digitValue? digit).getD 0 := by
    rw [List.filterMap_eq_map_iff_forall_eq_some]
    intro digit member
    have known := List.all_eq_true.mp (Bool.and_eq_true_iff.mp spelled).2 digit member
    rw [isDecimalDigit_eq_isSome_digitValue] at known
    obtain ⟨value, found⟩ := Option.isSome_iff_exists.mp known
    rw [found, Option.getD_some]
  calc numeralValue digits
      = digits.reverse.foldr (fun digit value => 10 * value + (digitValue? digit).getD 0) 0 := by
        rw [numeralValue, List.foldl_eq_foldr_reverse]
    _ = Nat.ofDigits 10 (digits.reverse.map fun digit => (digitValue? digit).getD 0) := by
        rw [Nat.ofDigits_eq_foldr, List.foldr_map]
        simp only [Nat.cast_id, Nat.add_comm]
    _ = Nat.ofDigits 10 (digits.filterMap digitValue?).reverse := by
        rw [values, List.map_reverse]

/-! ## Written numbers -/

theorem isDigit_of_mem_decimalDigits {value : Nat} {character : Char}
    (member : character ∈ decimalDigits value) : character.isDigit = true := by
  rw [decimalDigits_eq] at member
  exact Nat.isDigit_of_mem_toDigits (by decide) (by decide) member

theorem decimalDigits_ne_nil (value : Nat) : decimalDigits value ≠ [] := by
  rw [decimalDigits_eq]
  exact Nat.toDigits_ne_nil

theorem isNumeral_decimalDigits (value : Nat) : isNumeral (decimalDigits value) = true := by
  rw [isNumeral, Bool.and_eq_true, List.all_eq_true]
  refine ⟨?_, fun character member =>
    isDecimalDigit_of_isDigit (isDigit_of_mem_decimalDigits member)⟩
  cases written : decimalDigits value with
  | nil => exact absurd written (decimalDigits_ne_nil value)
  | cons first later => rfl

private theorem foldl_of_isDigit (digits : List Char) (start : Nat)
    (ascii : ∀ character ∈ digits, character.isDigit = true) :
    digits.foldl (fun value digit => 10 * value + (digitValue? digit).getD 0) start =
      Nat.ofDigitChars 10 digits start := by
  induction digits generalizing start with
  | nil => exact Nat.ofDigitChars_nil.symm
  | cons digit later inductionHypothesis =>
      have step := digitValue?_of_isDigit (ascii digit List.mem_cons_self)
      rw [List.foldl_cons, Nat.ofDigitChars_cons, step, Option.getD_some]
      exact inductionHypothesis _ fun other member =>
        ascii other (List.mem_cons_of_mem digit member)

@[simp]
theorem numeralValue_decimalDigits (value : Nat) :
    numeralValue (decimalDigits value) = value := by
  rw [numeralValue, foldl_of_isDigit _ _ fun _ member => isDigit_of_mem_decimalDigits member,
    decimalDigits_eq]
  exact Nat.ofDigitChars_ten_toDigits

theorem readNumeral?_unlimited (digits : List Char) :
    readNumeral? .unlimited digits = some (numeralValue digits) :=
  rfl

theorem toList_decimal_natCast (value : Nat) :
    (decimal (value : Int)).toList = decimalDigits value :=
  String.toList_ofList

theorem decimal_natCast_inj {left right : Nat} :
    decimal (left : Int) = decimal (right : Int) ↔ left = right := by
  refine ⟨fun same => ?_, fun same => same ▸ rfl⟩
  have digits := congrArg String.toList same
  rw [toList_decimal_natCast, toList_decimal_natCast] at digits
  rw [← numeralValue_decimalDigits left, digits, numeralValue_decimalDigits]

end Text

/-! ## Numbered registers -/

open Text

theorem toList_numberedRegister (index : Nat) :
    (numberedRegister index).toList = 'r' :: decimalDigits index := by
  rw [numberedRegister, String.toList_append, toList_decimal_natCast]
  rfl

theorem registerDigits?_numberedRegister (index : Nat) :
    registerDigits? (numberedRegister index) = some (decimalDigits index) := by
  rw [registerDigits?, toList_numberedRegister]
  exact if_pos (isNumeral_decimalDigits index)

end CounterMachine
