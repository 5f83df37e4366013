import CounterMachine.Text.LetterCase
import CounterMachine.Text.Word
import Mathlib.Data.List.Chain
import Mathlib.Tactic.MkIffOfInductiveProp

/-!
Contract: lower case is a closure on words.

Owns: the small characters, which lowering leaves alone; that lowering yields small
characters only, hence is idempotent, and that it takes words to words.

Does not own: the tables of letters. They are looked at here once, for what is regular about
all runs of capitals.

## Why runs are compared and not letters

Each fact about the tables is about whole runs of capitals, whose small letters fill an
interval. The intervals are compared with the ranges of word characters and with the other
runs, which takes a fraction of the comparisons that a check letter by letter would take.
-/

set_option autoImplicit false

namespace CounterMachine.Text

/-! ## Ranges that cover an interval -/

/-- Some range holds every code point from `low` to `high`. -/
def CodeRanges.spans (low high : Nat) : CodeRanges → Bool
  | [] => false
  | (first, last) :: later =>
      (Nat.ble high last && Nat.ble first low) || CodeRanges.spans low high later

theorem CodeRanges.covers_of_mem {ranges : CodeRanges} {range : Nat × Nat} {code : Nat}
    (ascending : (ranges.map Prod.fst).Pairwise (· < ·)) (member : range ∈ ranges)
    (low : range.1 ≤ code) (high : code ≤ range.2) : ranges.covers code = true := by
  induction ranges with
  | nil => cases member
  | cons head later inductionHypothesis =>
      obtain ⟨first, last⟩ := head
      rw [List.map_cons, List.pairwise_cons] at ascending
      rw [CodeRanges.covers]
      rcases List.mem_cons.mp member with rfl | inLater
      · rw [if_neg (Nat.not_lt.mpr low), if_pos high]
      · have before : first < range.1 := ascending.1 _ (List.mem_map_of_mem inLater)
        rw [if_neg (by omega)]
        by_cases reached : code ≤ last
        · rw [if_pos reached]
        · rw [if_neg reached]
          exact inductionHypothesis ascending.2 inLater

theorem CodeRanges.covers_of_spans {ranges : CodeRanges} {low high code : Nat}
    (ascending : (ranges.map Prod.fst).Pairwise (· < ·))
    (spanned : ranges.spans low high = true) (atLeast : low ≤ code) (atMost : code ≤ high) :
    ranges.covers code = true := by
  have found : ∃ range ∈ ranges, range.1 ≤ low ∧ high ≤ range.2 := by
    clear ascending
    induction ranges with
    | nil => cases spanned
    | cons head later inductionHypothesis =>
        rw [CodeRanges.spans, Bool.or_eq_true, Bool.and_eq_true, Nat.ble_eq, Nat.ble_eq]
          at spanned
        rcases spanned with here | there
        · exact ⟨head, List.mem_cons_self, here.2, here.1⟩
        · obtain ⟨range, member, bounds⟩ := inductionHypothesis there
          exact ⟨range, List.mem_cons_of_mem head member, bounds⟩
  obtain ⟨range, member, below, above⟩ := found
  exact covers_of_mem ascending member (by omega) (by omega)

/-! ## The tables -/

private theorem wordRanges_ascending : (wordRanges.map Prod.fst).Pairwise (· < ·) := by
  rw [← List.isChain_iff_pairwise]
  decide +kernel

namespace CapitalRun

/-- Code point of the small letter of the first capital. -/
def lowest (run : CapitalRun) : Nat :=
  (run.first + run.shift).toNat

/-- Code point of the small letter of the last capital. -/
def highest (run : CapitalRun) : Nat :=
  (run.last + run.shift).toNat

/-- No small letter of the run is a capital of the other: the two lie apart, or interleave
with a stride of two. -/
def clearOf (run other : CapitalRun) : Bool :=
  Nat.blt run.highest other.first || Nat.blt other.last run.lowest ||
    ((Nat.beq run.stride 2 || Nat.beq run.lowest run.highest) && Nat.beq other.stride 2 &&
      Nat.beq ((run.lowest + other.first) % 2) 1)

/-- The small letters of the run are word characters and no capitals. The small ASCII letters belong
to the ASCII capitals, but for the one that is also the small letter of the kelvin sign, and the
ASCII capitals are one run. -/
@[mk_iff]
structure Regular (run : CapitalRun) : Prop where
  words : wordRanges.spans run.lowest run.highest = true
  apart : capitalRuns.all run.clearOf = true
  positive : 0 < run.lowest
  notDotted : run.highest < 0x130 ∨ 0x130 < run.lowest
  valid : run.highest < 0xD800 ∨ 0xDFFF < run.lowest ∧ run.highest < 0x110000
  asciiSmall : run.first = 0x41 ∧ run.shift = 32 ∨
    run.highest < 'a'.toNat ∨ 'z'.toNat < run.lowest ∨
    run.lowest = 'k'.toNat ∧ run.highest = 'k'.toNat
  asciiCapital : run.first = 0x41 ∧ run.last = 0x5A ∨ 128 ≤ run.first

instance : DecidablePred Regular :=
  fun run => decidable_of_iff _ (regular_iff run).symm

end CapitalRun

/-- One pass over the tables. -/
private theorem regular_of_mem_capitalRuns : ∀ run ∈ capitalRuns, run.Regular := by
  decide +kernel

/-! ## Small letters -/

private theorem toNat_ofNat {code : Nat} (valid : code.isValidChar) :
    (Char.ofNat code).toNat = code := by
  rw [Char.ofNat, dif_pos valid]
  rfl

private theorem bounds_of_includes {run : CapitalRun} {code : Nat}
    (included : run.includes code = true) :
    run.first ≤ code ∧ code ≤ run.last ∧ (code - run.first) % run.stride = 0 := by
  rw [CapitalRun.includes, Bool.and_eq_true, Bool.and_eq_true, decide_eq_true_eq,
    decide_eq_true_eq, beq_iff_eq] at included
  exact ⟨included.1.1, included.1.2, included.2⟩

/-- The code point of the small letter of a capital, between the bounds of its run. -/
private theorem small_bounds {run : CapitalRun} {code : Nat}
    (included : run.includes code = true) :
    run.lowest ≤ (code + run.shift).toNat ∧ (code + run.shift).toNat ≤ run.highest := by
  obtain ⟨low, high, -⟩ := bounds_of_includes included
  unfold CapitalRun.lowest CapitalRun.highest
  omega

private theorem smallLetter_cases (character : Char) :
    smallLetter character = character ∨
      ∃ run ∈ capitalRuns, run.includes character.toNat = true ∧
        (smallLetter character).toNat = (character.toNat + run.shift).toNat := by
  unfold smallLetter
  split
  · next run found =>
      right
      have member := List.mem_of_find?_eq_some found
      have included : run.includes character.toNat = true := by
        have holds := List.find?_some found
        exact holds
      refine ⟨run, member, included, toNat_ofNat ?_⟩
      have regular := regular_of_mem_capitalRuns run member
      have valid := regular.valid
      obtain ⟨low, high⟩ := small_bounds included
      unfold Nat.isValidChar
      omega
  · exact .inl rfl

private theorem smallLetter_of_not_included {character : Char}
    (outside : ∀ run ∈ capitalRuns, run.includes character.toNat = false) :
    smallLetter character = character := by
  unfold smallLetter
  rw [List.find?_eq_none.mpr]
  intro run member
  rw [outside run member]
  decide

/-- A small letter of one run is no capital of a run that it is clear of. -/
private theorem not_includes_of_clearOf {run other : CapitalRun} {code : Nat}
    (clear : run.clearOf other = true) (included : run.includes code = true)
    (positive : 0 < run.lowest) :
    other.includes (code + run.shift).toNat = false := by
  rw [Bool.eq_false_iff]
  intro capital
  obtain ⟨low, high, step⟩ := bounds_of_includes included
  obtain ⟨otherLow, otherHigh, otherStep⟩ := bounds_of_includes capital
  obtain ⟨above, below⟩ := small_bounds included
  rw [CapitalRun.clearOf, Bool.or_eq_true, Bool.or_eq_true, Nat.blt_eq, Nat.blt_eq] at clear
  rcases clear with (apart | apart) | interleaved
  · omega
  · omega
  · rw [Bool.and_eq_true, Bool.and_eq_true, Bool.or_eq_true, Nat.beq_eq, Nat.beq_eq,
      Nat.beq_eq, Nat.beq_eq] at interleaved
    obtain ⟨⟨spread, otherTwo⟩, odd⟩ := interleaved
    rw [otherTwo] at otherStep
    rcases spread with two | single
    · rw [two] at step
      unfold CapitalRun.lowest at odd positive
      omega
    · omega

/-- Lowering leaves the character alone, whatever surrounds it. -/
def IsSmall (character : Char) : Prop :=
  character ≠ '\u0130' ∧ smallLetter character = character

private theorem smallLetter_sigma : smallLetter '\u03a3' = '\u03c3' := by
  decide

theorem IsSmall.ne_sigma {character : Char} (small : IsSmall character) :
    character ≠ '\u03a3' := by
  rintro rfl
  have kept := small.2
  rw [smallLetter_sigma] at kept
  exact absurd kept (by decide)

theorem isSmall_smallLetter {character : Char} (plain : character ≠ '\u0130') :
    IsSmall (smallLetter character) := by
  rcases smallLetter_cases character with same | ⟨run, member, included, code⟩
  · rw [same]
    exact ⟨plain, same⟩
  · have regular := regular_of_mem_capitalRuns run member
    have dotted := regular.notDotted
    obtain ⟨low, high⟩ := small_bounds included
    constructor
    · intro same
      rw [same] at code
      have value : ('\u0130').toNat = 0x130 := rfl
      omega
    · apply smallLetter_of_not_included
      intro other otherMember
      rw [code]
      have clear := List.all_eq_true.mp regular.apart other otherMember
      exact not_includes_of_clearOf clear included regular.positive

theorem isWord_smallLetter {character : Char} (word : isWord character = true) :
    isWord (smallLetter character) = true := by
  rcases smallLetter_cases character with same | ⟨run, member, included, code⟩
  · rw [same]
    exact word
  · obtain ⟨low, high⟩ := small_bounds included
    have regular := regular_of_mem_capitalRuns run member
    rw [isWord, code]
    exact CodeRanges.covers_of_spans wordRanges_ascending regular.words low high

/-- Only ASCII letters have a small ASCII letter, the letter k apart. -/
theorem ascii_of_smallLetter {character small : Char} (lowered : smallLetter character = small)
    (low : 'a'.toNat ≤ small.toNat) (high : small.toNat ≤ 'z'.toNat) (notKelvin : small ≠ 'k') :
    character.toNat < 128 := by
  have last : 'z'.toNat = 122 := rfl
  rcases smallLetter_cases character with same | ⟨run, member, included, code⟩
  · rw [← same, lowered]
    omega
  · rw [lowered] at code
    obtain ⟨below, above⟩ := small_bounds included
    rcases (regular_of_mem_capitalRuns run member).asciiSmall with
      ⟨-, shift⟩ | far | far | ⟨first, last⟩
    · rw [shift] at code
      omega
    · omega
    · omega
    · have kelvin : small.toNat = 'k'.toNat := by omega
      exact absurd (Char.toNat_inj.mp kelvin) notKelvin

theorem toLower_of_not_capital {character : Char}
    (other : ¬ (character.val ≥ 'A'.val ∧ character.val ≤ 'Z'.val)) :
    character.toLower = character :=
  dif_neg other

private theorem smallLetter_of_offset :
    ∀ offset : Fin 26,
      smallLetter (Char.ofNat (0x41 + offset)) = (Char.ofNat (0x41 + offset)).toLower := by
  decide

theorem smallLetter_of_ascii {character : Char} (ascii : character.toNat < 128) :
    smallLetter character = character.toLower := by
  by_cases capital : 0x41 ≤ character.toNat ∧ character.toNat ≤ 0x5A
  · have atOffset := smallLetter_of_offset ⟨character.toNat - 0x41, by omega⟩
    rw [Nat.add_sub_cancel' capital.1, Char.ofNat_toNat] at atOffset
    exact atOffset
  · rw [toLower_of_not_capital capital]
    apply smallLetter_of_not_included
    intro run member
    rw [Bool.eq_false_iff]
    intro included
    obtain ⟨low, high, -⟩ := bounds_of_includes included
    rcases (regular_of_mem_capitalRuns run member).asciiCapital with ⟨first, last⟩ | far
    · omega
    · omega

theorem isSmall_of_ascii {character : Char} (ascii : character.toNat < 128)
    (kept : character.toLower = character) : IsSmall character := by
  refine ⟨?_, (smallLetter_of_ascii ascii).trans kept⟩
  rintro rfl
  exact absurd ascii (by decide)

theorem isSmall_of_isDigit {character : Char} (digit : character.isDigit = true) :
    IsSmall character := by
  have bounds : 48 ≤ character.toNat ∧ character.toNat ≤ 57 :=
    Char.isDigit_iff_toNat.mp digit
  apply isSmall_of_ascii (by omega)
  apply toLower_of_not_capital
  intro capital
  have low : 'A'.toNat ≤ character.toNat := capital.1
  have first : 'A'.toNat = 65 := rfl
  omega

/-! ## Lower case of a text -/

private theorem isSmall_of_mem_lowerAt {before after : List Char} {character lowered : Char}
    (member : lowered ∈ lowerAt before character after) : IsSmall lowered := by
  unfold lowerAt at member
  by_cases dotted : character = '\u0130'
  · rw [if_pos dotted] at member
    rcases List.mem_cons.mp member with rfl | rest
    · exact ⟨by decide, by decide⟩
    · rw [List.mem_singleton.mp rest]
      exact ⟨by decide, by decide⟩
  · rw [if_neg dotted] at member
    by_cases sigma : character = '\u03a3'
    · rw [if_pos sigma, List.mem_singleton] at member
      rw [member]
      split
      · exact ⟨by decide, by decide⟩
      · exact ⟨by decide, by decide⟩
    · rw [if_neg sigma, List.mem_singleton] at member
      rw [member]
      exact isSmall_smallLetter dotted

private theorem isWord_of_mem_lowerAt {before after : List Char} {character lowered : Char}
    (word : isWord character = true) (member : lowered ∈ lowerAt before character after) :
    isWord lowered = true := by
  unfold lowerAt at member
  by_cases dotted : character = '\u0130'
  · rw [if_pos dotted] at member
    rcases List.mem_cons.mp member with rfl | rest
    · decide
    · rw [List.mem_singleton.mp rest]
      decide
  · rw [if_neg dotted] at member
    by_cases sigma : character = '\u03a3'
    · rw [if_pos sigma, List.mem_singleton] at member
      rw [member]
      split
      · decide
      · decide
    · rw [if_neg sigma, List.mem_singleton] at member
      rw [member]
      exact isWord_smallLetter word

private theorem mem_lowerFrom {before text : List Char} {lowered : Char}
    (member : lowered ∈ lowerFrom before text) :
    ∃ character ∈ text, ∃ left right, lowered ∈ lowerAt left character right := by
  induction text generalizing before with
  | nil => cases member
  | cons character after inductionHypothesis =>
      rcases List.mem_append.mp member with here | there
      · exact ⟨character, List.mem_cons_self, before, after, here⟩
      · obtain ⟨other, inAfter, found⟩ := inductionHypothesis there
        exact ⟨other, List.mem_cons_of_mem character inAfter, found⟩

theorem isSmall_of_mem_lower {text : List Char} {lowered : Char}
    (member : lowered ∈ lower text) : IsSmall lowered := by
  obtain ⟨character, -, left, right, found⟩ := mem_lowerFrom member
  exact isSmall_of_mem_lowerAt found

/-- Lower case of a word is a word. -/
theorem isWord_of_mem_lower {text : List Char} {lowered : Char}
    (word : ∀ character ∈ text, isWord character = true) (member : lowered ∈ lower text) :
    isWord lowered = true := by
  obtain ⟨character, inText, left, right, found⟩ := mem_lowerFrom member
  exact isWord_of_mem_lowerAt (word character inText) found

private theorem lowerAt_of_isSmall {before after : List Char} {character : Char}
    (small : IsSmall character) : lowerAt before character after = [character] := by
  rw [lowerAt, if_neg small.1, if_neg small.ne_sigma, small.2]

private theorem lowerFrom_of_isSmall (before text : List Char)
    (small : ∀ character ∈ text, IsSmall character) : lowerFrom before text = text := by
  induction text generalizing before with
  | nil => rfl
  | cons character after inductionHypothesis =>
      rw [lowerFrom, lowerAt_of_isSmall (small character List.mem_cons_self),
        inductionHypothesis _ fun other member => small other (List.mem_cons_of_mem _ member)]
      rfl

theorem lower_of_isSmall {text : List Char} (small : ∀ character ∈ text, IsSmall character) :
    lower text = text :=
  lowerFrom_of_isSmall [] text small

/-- A second lowering changes nothing. -/
@[simp]
theorem lower_lower (text : List Char) : lower (lower text) = lower text :=
  lower_of_isSmall fun _ member => isSmall_of_mem_lower member

theorem lower_ne_nil {text : List Char} (nonempty : text ≠ []) : lower text ≠ [] := by
  cases text with
  | nil => exact absurd rfl nonempty
  | cons character after =>
      unfold lower lowerFrom lowerAt
      split
      · exact List.cons_ne_nil _ _
      · split
        · exact List.cons_ne_nil _ _
        · exact List.cons_ne_nil _ _

end CounterMachine.Text
