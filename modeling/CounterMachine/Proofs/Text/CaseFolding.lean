import CounterMachine.Proofs.Text.LowerCase
import CounterMachine.Source.Item
import CounterMachine.Text.WhiteSpace

/-!
Contract: texts that differ in the case of ASCII letters.

Owns: functions of characters that do not tell ASCII capitals from small letters, the texts in
which all ASCII letters are small, and that runs of a class of characters, values of numerals and
lower case are the same of a text and of that one.

Does not own: letters outside ASCII. These are left as they are here, also by `Char.toLower`.

## Why lower case needs an argument

The lower case of a capital sigma depends on the letters around it. These may be ASCII letters, but
whether a letter is cased does not depend on its case.
-/

set_option autoImplicit false

namespace CounterMachine.Text

/-! ## Characters -/

/-- The function does not tell an ASCII capital from its small letter. -/
def CaseBlind {Result : Type} (read : Char → Result) : Prop :=
  ∀ character : Char, read character.toLower = read character

/-- Only the capitals have to be looked at. -/
theorem CaseBlind.of_capitals {Result : Type} {read : Char → Result}
    (capitals : ∀ place : Fin 26,
      read (Char.ofNat (65 + place)).toLower = read (Char.ofNat (65 + place))) :
    CaseBlind read := by
  intro character
  by_cases capital : character.val ≥ 'A'.val ∧ character.val ≤ 'Z'.val
  · have low : 65 ≤ character.toNat := capital.1
    have high : character.toNat ≤ 90 := capital.2
    have same := capitals ⟨character.toNat - 65, by omega⟩
    rwa [Nat.add_sub_cancel' low, Char.ofNat_toNat] at same
  · rw [toLower_of_not_capital capital]

theorem caseBlind_toLower : CaseBlind Char.toLower :=
  .of_capitals (by decide)

theorem caseBlind_isAlpha : CaseBlind Char.isAlpha :=
  .of_capitals (by decide)

theorem caseBlind_isDigit : CaseBlind Char.isDigit :=
  .of_capitals (by decide)

theorem caseBlind_isWord : CaseBlind isWord :=
  .of_capitals (by decide)

theorem caseBlind_isWhiteSpace : CaseBlind isWhiteSpace :=
  .of_capitals (by decide)

theorem caseBlind_isSeparator : CaseBlind isSeparator :=
  .of_capitals (by decide)

theorem caseBlind_digitValue? : CaseBlind digitValue? :=
  .of_capitals (by decide)

theorem caseBlind_isCased : CaseBlind isCased :=
  .of_capitals (by decide)

theorem caseBlind_isCaseIgnorable : CaseBlind isCaseIgnorable :=
  .of_capitals (by decide)

theorem caseBlind_smallLetter : CaseBlind smallLetter :=
  .of_capitals (by decide)

/-- A character that is not a letter has no other case. -/
theorem toLower_eq_iff {character mark : Char} (plain : mark.isAlpha = false) :
    character.toLower = mark ↔ character = mark := by
  by_cases letter : character.isAlpha = true
  · have lowered : character.toLower.isAlpha = true := (caseBlind_isAlpha character).trans letter
    constructor
    · rintro rfl
      cases lowered.symm.trans plain
    · rintro rfl
      cases letter.symm.trans plain
  · rw [toLower_of_not_capital]
    intro capital
    have upper : character.isUpper = true := decide_eq_true capital
    exact letter (Bool.or_eq_true_iff.mpr (.inl upper))

theorem caseBlind_eq {mark : Char} (plain : mark.isAlpha = false) : CaseBlind (· == mark) := by
  intro character
  rw [Bool.eq_iff_iff, beq_iff_eq, beq_iff_eq, toLower_eq_iff plain]

theorem caseBlind_ne {mark : Char} (plain : mark.isAlpha = false) : CaseBlind (· != mark) :=
  fun character => congrArg not (caseBlind_eq plain character)

/-! ## Texts -/

/-- The text with small letters in place of ASCII capitals. -/
def foldCase (text : List Char) : List Char :=
  text.map Char.toLower

section Texts

variable {belongs : Char → Bool}

theorem CaseBlind.map {Result : Type} {read : Char → Result} (blind : CaseBlind read)
    (text : List Char) : (foldCase text).map read = text.map read := by
  rw [foldCase, List.map_map]
  exact List.map_congr_left fun character _ => blind character

theorem CaseBlind.takeWhile (blind : CaseBlind belongs) (text : List Char) :
    (foldCase text).takeWhile belongs = foldCase (text.takeWhile belongs) := by
  have same : belongs ∘ Char.toLower = belongs := funext blind
  rw [foldCase, List.takeWhile_map, same, foldCase]

theorem CaseBlind.dropWhile (blind : CaseBlind belongs) (text : List Char) :
    (foldCase text).dropWhile belongs = foldCase (text.dropWhile belongs) := by
  have same : belongs ∘ Char.toLower = belongs := funext blind
  rw [foldCase, List.dropWhile_map, same, foldCase]

theorem foldCase_reverse (text : List Char) : (foldCase text).reverse = foldCase text.reverse := by
  rw [foldCase, foldCase, List.map_reverse]

theorem foldCase_append (first second : List Char) :
    foldCase (first ++ second) = foldCase first ++ foldCase second :=
  List.map_append

@[simp]
theorem foldCase_foldCase (text : List Char) : foldCase (foldCase text) = foldCase text :=
  caseBlind_toLower.map text

@[simp]
theorem length_foldCase (text : List Char) : (foldCase text).length = text.length :=
  List.length_map _

/-- A text of a class that has no letters is the same in either case. -/
theorem foldCase_of_forall {text : List Char}
    (plain : ∀ character ∈ text, character.isAlpha = false) : foldCase text = text := by
  rw [foldCase, List.map_congr_left, List.map_id]
  intro character member
  exact (toLower_eq_iff (plain character member)).mpr rfl

theorem strip_foldCase (text : List Char) : strip (foldCase text) = foldCase (strip text) := by
  unfold strip stripOf
  rw [caseBlind_isSeparator.dropWhile, foldCase_reverse, caseBlind_isSeparator.dropWhile,
    foldCase_reverse]

theorem numeralValue_foldCase (digits : List Char) :
    numeralValue (foldCase digits) = numeralValue digits := by
  rw [numeralValue, foldCase, List.foldl_map, numeralValue]
  simp only [caseBlind_digitValue? _]

private theorem meetsCased_foldCase (text : List Char) :
    meetsCased (foldCase text) = meetsCased text := by
  unfold meetsCased
  rw [caseBlind_isCaseIgnorable.dropWhile]
  cases text.dropWhile isCaseIgnorable with
  | nil => rfl
  | cons nearest later => exact caseBlind_isCased nearest

private theorem lowerAt_foldCase (before : List Char) (character : Char) (after : List Char) :
    lowerAt (foldCase before) character.toLower (foldCase after) =
      lowerAt before character after := by
  have dotted : (character.toLower = '\u0130') = (character = '\u0130') :=
    propext (toLower_eq_iff (by decide))
  have sigma : (character.toLower = '\u03a3') = (character = '\u03a3') :=
    propext (toLower_eq_iff (by decide))
  simp only [lowerAt, dotted, sigma, meetsCased_foldCase, caseBlind_smallLetter character]

private theorem lowerFrom_foldCase (before text : List Char) :
    lowerFrom (foldCase before) (foldCase text) = lowerFrom before text := by
  induction text generalizing before with
  | nil => rfl
  | cons character after inductionHypothesis =>
      have rest := inductionHypothesis (character :: before)
      have here := lowerAt_foldCase before character after
      simp only [foldCase, List.map_cons] at rest here ⊢
      rw [lowerFrom, lowerFrom, rest, here]

/-- The lower case of a text does not depend on the case of its ASCII letters. -/
theorem lower_foldCase (text : List Char) : lower (foldCase text) = lower text :=
  lowerFrom_foldCase [] text

theorem lowered_foldCase (name : List Char) :
    Source.lowered (foldCase name) = Source.lowered name := by
  rw [Source.lowered, lower_foldCase, Source.lowered]

end Texts

/-! ## Strings -/

theorem toList_toLower (text : String) : text.toLower.toList = foldCase text.toList :=
  String.toList_map

theorem toLower_ofList (text : List Char) :
    (String.ofList text).toLower = String.ofList (foldCase text) := by
  rw [← String.toList_inj, toList_toLower, String.toList_ofList, String.toList_ofList]

theorem toLower_ofList_foldCase (text : List Char) :
    (String.ofList (foldCase text)).toLower = (String.ofList text).toLower := by
  rw [toLower_ofList, foldCase_foldCase, toLower_ofList]

@[simp]
theorem toLower_append (first second : String) :
    (first ++ second).toLower = first.toLower ++ second.toLower := by
  rw [← String.toList_inj, toList_toLower, String.toList_append, foldCase_append,
    String.toList_append, toList_toLower, toList_toLower]

@[simp]
theorem toLower_toLower (text : String) : text.toLower.toLower = text.toLower := by
  rw [← String.toList_inj, toList_toLower, toList_toLower, foldCase_foldCase]

end CounterMachine.Text
