import CounterMachine.Diagnostic

/-!
Contract: the form in which a diagnostic is shown.

Owns: how codes, places and whole diagnostics are shown, by cases on what is known of them, and
that rendering shows every diagnostic in this form, of which there is one.

Does not own: what the errors have to say.
-/

set_option autoImplicit false

namespace CounterMachine

open Text

/-! ## Codes -/

/-- A code is shown as its series and its number with a hyphen between them. Zeros in front of
its digits fill the number up to four places. -/
inductive ErrorCode.ShownAs (code : ErrorCode) : String → Prop where
  | natural {zeros : Nat} (natural : 0 ≤ code.number)
      (filled : zeros = 4 - (decimal code.number).length) :
      ErrorCode.ShownAs code
        (code.series ++ "-" ++ (String.ofList (List.replicate zeros '0') ++ decimal code.number))
  | negative {zeros : Nat} (negative : code.number < 0)
      (filled : zeros = 3 - (decimal (-code.number)).length) :
      ErrorCode.ShownAs code
        (code.series ++ "-" ++
          ("-" ++ String.ofList (List.replicate zeros '0') ++ decimal (-code.number)))

private theorem paddedDecimal_of_natural {value : Int} (natural : 0 ≤ value) (width : Nat) :
    paddedDecimal width value =
      String.ofList (List.replicate (width - (decimal value).length) '0') ++ decimal value := by
  obtain ⟨number, rfl⟩ := Int.eq_ofNat_of_zero_le natural
  have digits : decimal (number : Int) = String.ofList (decimalDigits number) := rfl
  have notNegative : ¬ (number : Int) < 0 := Int.not_lt.mpr natural
  rw [paddedDecimal, digits, ← String.ofList_append, String.length_ofList]
  simp only [if_neg notNegative, Int.natAbs_natCast, List.nil_append]

private theorem paddedDecimal_of_negative {value : Int} (negative : value < 0) (width : Nat) :
    paddedDecimal (width + 1) value =
      "-" ++ String.ofList (List.replicate (width - (decimal (-value)).length) '0') ++
        decimal (-value) := by
  obtain ⟨number, rfl⟩ : ∃ number : Nat, value = -number := ⟨value.natAbs, by omega⟩
  have digits : decimal (- -(number : Int)) = String.ofList (decimalDigits number) := by
    rw [Int.neg_neg]
    rfl
  have sign : "-" = String.ofList ['-'] := rfl
  rw [paddedDecimal, digits, sign, ← String.ofList_append, ← String.ofList_append,
    String.length_ofList]
  simp only [if_pos negative, Int.natAbs_neg, Int.natAbs_natCast, List.length_append,
    List.length_singleton, Nat.add_comm 1, Nat.add_sub_add_right]

theorem ErrorCode.shownAs_iff {code : ErrorCode} {text : String} :
    code.ShownAs text ↔ text = code.text := by
  constructor
  · intro shown
    cases shown with
    | natural natural filled => rw [ErrorCode.text, paddedDecimal_of_natural natural, filled]
    | negative negative filled => rw [ErrorCode.text, paddedDecimal_of_negative negative, filled]
  · rintro rfl
    rcases Int.lt_or_le code.number 0 with negative | natural
    · rw [ErrorCode.text, paddedDecimal_of_negative negative]
      exact .negative negative rfl
    · rw [ErrorCode.text, paddedDecimal_of_natural natural]
      exact .natural natural rfl

/-! ## Places -/

/-- A place is shown by what is known of it: the file, the line, or both with a colon between
them. Nothing is said of a line before the first. -/
inductive Span.ShownAs (span : Span) : String → Prop where
  | unknown (nameless : span.file = "") (lineless : span.line = 0) :
      Span.ShownAs span "<unknown location>"
  | line (nameless : span.file = "") (counted : 0 < span.line) :
      Span.ShownAs span (decimal span.line)
  | file (named : span.file ≠ "") (uncounted : span.line ≤ 0) : Span.ShownAs span span.file
  | both (named : span.file ≠ "") (counted : 0 < span.line) :
      Span.ShownAs span (span.file ++ ":" ++ decimal span.line)
  | neither (nameless : span.file = "") (before : span.line < 0) : Span.ShownAs span ""

private theorem Span.ShownAs.eq_text {span : Span} {text : String} (shown : span.ShownAs text) :
    text = span.text := by
  cases shown with
  | unknown nameless lineless => simp [Span.text, nameless, lineless]
  | line nameless counted =>
      have lineKnown : span.line ≠ 0 := Int.ne_of_gt counted
      simp [Span.text, nameless, counted, lineKnown]
  | file named uncounted =>
      have noLine : ¬ 0 < span.line := Int.not_lt.mpr uncounted
      simp [Span.text, named, noLine]
  | both named counted => simp [Span.text, named, counted, String.append_assoc]
  | neither nameless before =>
      have noLine : ¬ 0 < span.line := Int.lt_asymm before
      simp [Span.text, nameless, noLine, Int.ne_of_lt before]

private theorem Span.exists_shownAs (span : Span) : ∃ text, span.ShownAs text := by
  by_cases nameless : span.file = ""
  · rcases Int.lt_trichotomy span.line 0 with before | lineless | counted
    · exact ⟨_, .neither nameless before⟩
    · exact ⟨_, .unknown nameless lineless⟩
    · exact ⟨_, .line nameless counted⟩
  · by_cases counted : 0 < span.line
    · exact ⟨_, .both nameless counted⟩
    · exact ⟨_, .file nameless (Int.not_lt.mp counted)⟩

theorem Span.shownAs_iff {span : Span} {text : String} :
    span.ShownAs text ↔ text = span.text := by
  refine ⟨Span.ShownAs.eq_text, ?_⟩
  rintro rfl
  obtain ⟨text, shown⟩ := span.exists_shownAs
  exact shown.eq_text ▸ shown

/-! ## Diagnostics -/

/-- A diagnostic is shown on one line: place, message, and the code in brackets. A hint follows
on a line of its own. -/
inductive Diagnostic.ShownAs (diagnostic : Diagnostic) : String → Prop where
  | plain {place code : String} (located : diagnostic.span.ShownAs place)
      (coded : diagnostic.code.ShownAs code) (unhinted : diagnostic.hint = "") :
      Diagnostic.ShownAs diagnostic
        (place ++ ": error: " ++ diagnostic.message ++ " [" ++ code ++ "]")
  | hinted {place code : String} (located : diagnostic.span.ShownAs place)
      (coded : diagnostic.code.ShownAs code) (hinted : diagnostic.hint ≠ "") :
      Diagnostic.ShownAs diagnostic
        (place ++ ": error: " ++ diagnostic.message ++ " [" ++ code ++ "]" ++
          "\nhint: " ++ diagnostic.hint)

/-- Rendering shows a diagnostic in its form, and there is no other text of this form. -/
theorem Diagnostic.shownAs_iff {diagnostic : Diagnostic} {text : String} :
    diagnostic.ShownAs text ↔ text = diagnostic.render := by
  constructor
  · intro shown
    cases shown with
    | plain located coded unhinted =>
        rw [Span.shownAs_iff.mp located, ErrorCode.shownAs_iff.mp coded, render, unhinted]
        rfl
    | hinted located coded hinted =>
        have shownHint : diagnostic.hint.isEmpty = false := by simpa using hinted
        rw [Span.shownAs_iff.mp located, ErrorCode.shownAs_iff.mp coded, render, shownHint]
        rfl
  · rintro rfl
    by_cases unhinted : diagnostic.hint = ""
    · rw [render, unhinted]
      exact .plain (Span.shownAs_iff.mpr rfl) (ErrorCode.shownAs_iff.mpr rfl) unhinted
    · have shownHint : diagnostic.hint.isEmpty = false := by simpa using unhinted
      rw [render, shownHint]
      exact .hinted (Span.shownAs_iff.mpr rfl) (ErrorCode.shownAs_iff.mpr rfl) unhinted

end CounterMachine
