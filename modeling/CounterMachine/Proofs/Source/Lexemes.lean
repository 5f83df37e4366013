import CounterMachine.Source.Reader

/-!
Contract: what the lexical readers read, and what must stand behind it.

Owns: runs of a class of characters; the notion of a reader that reads exactly the texts a
printer writes; and that notion for runs, keywords and quotations, and for parts that may be
missing.

Does not own: jump operands, and items.

## Why a condition on the text behind

A reader takes the longest run of a class and gives nothing back. What it reads is therefore
told by the text that was read together with the place where the run stops: the text behind
must not go on with the class, and an optional part that was not read must not be there.
-/

set_option autoImplicit false

namespace CounterMachine.Source

open Text

/-! ## Runs -/

/-- All characters are of the class. -/
def Consists (belongs : Char → Bool) (text : List Char) : Prop :=
  ∀ character ∈ text, belongs character = true

/-- At least one character, and all of the class. -/
def IsRun (belongs : Char → Bool) (text : List Char) : Prop :=
  text ≠ [] ∧ Consists belongs text

/-- The text does not go on with a character of the class. -/
def Stops (belongs : Char → Bool) (text : List Char) : Prop :=
  ∀ character ∈ text.head?, belongs character = false

instance (belongs : Char → Bool) (text : List Char) : Decidable (Consists belongs text) :=
  List.decidableBAll _ text

instance (belongs : Char → Bool) (text : List Char) : Decidable (IsRun belongs text) :=
  inferInstanceAs (Decidable (text ≠ [] ∧ Consists belongs text))

variable {belongs : Char → Bool}

theorem stops_nil : Stops belongs [] := by
  intro character absent
  cases absent

@[simp]
theorem stops_cons {character : Char} {rest : List Char} :
    Stops belongs (character :: rest) ↔ belongs character = false := by
  constructor
  · intro stops
    exact stops character rfl
  · intro outside other same
    rw [← Option.some.inj same]
    exact outside

theorem exists_of_not_stops {mark : Char} {text : List Char}
    (goesOn : ¬ Stops (· == mark) text) : ∃ behind, text = mark :: behind := by
  cases text with
  | nil => exact absurd stops_nil goesOn
  | cons first behind =>
      by_cases same : first = mark
      · exact ⟨behind, by rw [same]⟩
      · have stops : Stops (· == mark) (first :: behind) :=
          stops_cons.mpr (beq_eq_false_iff_ne.mpr same)
        exact absurd stops goesOn

/-- A run that is not empty stands in the way of every class that its characters are not of. -/
theorem IsRun.stops_append {others : Char → Bool} {run : List Char} (isRun : IsRun belongs run)
    (apart : ∀ character, belongs character = true → others character = false)
    (rest : List Char) : Stops others (run ++ rest) := by
  obtain ⟨nonempty, consists⟩ := isRun
  cases run with
  | nil => exact absurd rfl nonempty
  | cons first later => exact stops_cons.mpr (apart first (consists first List.mem_cons_self))

/-- A run does not start with a character that is not of its class. -/
theorem IsRun.stops_mark {mark : Char} {run : List Char} (isRun : IsRun belongs run)
    (outside : belongs mark = false) (rest : List Char) : Stops (· == mark) (run ++ rest) := by
  apply isRun.stops_append
  intro character inside
  rw [beq_eq_false_iff_ne]
  intro same
  rw [same, outside] at inside
  cases inside

theorem Consists.stops_append {others : Char → Bool} {run rest : List Char}
    (consists : Consists belongs run)
    (apart : ∀ character, belongs character = true → others character = false)
    (stops : Stops others rest) : Stops others (run ++ rest) := by
  cases run with
  | nil => exact stops
  | cons first later => exact stops_cons.mpr (apart first (consists first List.mem_cons_self))

theorem Stops.of_front {front text : List Char} (stops : Stops belongs text)
    (isFront : front <+: text) : Stops belongs front := by
  cases front with
  | nil => exact stops_nil
  | cons first later =>
      obtain ⟨behind, rfl⟩ := isFront
      exact stops_cons.mpr (stops_cons.mp stops)

theorem stops_dropWhile (text : List Char) : Stops belongs (text.dropWhile belongs) := by
  induction text with
  | nil => exact stops_nil
  | cons first later inductionHypothesis =>
      rw [List.dropWhile_cons]
      by_cases inside : belongs first = true
      · rw [if_pos inside]
        exact inductionHypothesis
      · rw [if_neg inside]
        exact stops_cons.mpr (Bool.eq_false_iff.mpr inside)

private theorem takeWhile_of_stops {rest : List Char} (stops : Stops belongs rest) :
    rest.takeWhile belongs = [] := by
  cases rest with
  | nil => rfl
  | cons first later =>
      rw [List.takeWhile_cons, if_neg]
      rw [stops_cons.mp stops]
      exact Bool.false_ne_true

theorem dropWhile_of_stops {rest : List Char} (stops : Stops belongs rest) :
    rest.dropWhile belongs = rest := by
  cases rest with
  | nil => rfl
  | cons first later =>
      rw [List.dropWhile_cons, if_neg]
      rw [stops_cons.mp stops]
      exact Bool.false_ne_true

/-- The longest run at the front is the one behind which the text stops. -/
theorem takeWhile_dropWhile_iff {text run rest : List Char} :
    text.takeWhile belongs = run ∧ text.dropWhile belongs = rest ↔
      text = run ++ rest ∧ Consists belongs run ∧ Stops belongs rest := by
  constructor
  · intro read
    rcases read with ⟨rfl, rfl⟩
    exact ⟨List.takeWhile_append_dropWhile.symm, List.all_eq_true.mp List.all_takeWhile,
      stops_dropWhile text⟩
  · intro written
    rcases written with ⟨rfl, consists, stops⟩
    constructor
    · rw [List.takeWhile_append_of_pos consists, takeWhile_of_stops stops, List.append_nil]
    · rw [List.dropWhile_append_of_pos consists, dropWhile_of_stops stops]

theorem after?_eq_some_iff {expected text rest : List Char} :
    after? expected text = some rest ↔ text = expected ++ rest := by
  induction expected generalizing text with
  | nil =>
      rw [after?, Option.some.injEq]
      exact Iff.rfl
  | cons first later inductionHypothesis =>
      cases text with
      | nil =>
          constructor
          · intro impossible
            cases impossible
          · intro impossible
            cases impossible
      | cons character behind =>
          rw [after?, List.cons_append, List.cons.injEq]
          by_cases same : character = first
          · rw [if_pos same, inductionHypothesis]
            exact (and_iff_right same).symm
          · rw [if_neg same]
            constructor
            · intro impossible
              cases impossible
            · intro written
              rcases written with ⟨equal, -⟩
              exact absurd equal same

theorem after?_of_stops {mark : Char} {later text : List Char} (stops : Stops (· == mark) text) :
    after? (mark :: later) text = none := by
  cases found : after? (mark :: later) text with
  | none => rfl
  | some behind =>
      rw [after?_eq_some_iff.mp found, List.cons_append, stops_cons, beq_self_eq_true] at stops
      cases stops

theorem after?_eq_none_iff {mark : Char} {text : List Char} :
    after? [mark] text = none ↔ Stops (· == mark) text := by
  constructor
  · intro absent
    cases text with
    | nil => exact stops_nil
    | cons first rest =>
        rw [stops_cons, beq_eq_false_iff_ne]
        rintro rfl
        rw [after?_eq_some_iff.mpr (rfl : first :: rest = [first] ++ rest)] at absent
        cases absent
  · exact after?_of_stops

theorem run?_of_stops {text : List Char} (stops : Stops belongs text) :
    run? belongs text = none := by
  unfold run?
  rw [takeWhile_of_stops stops]

/-! ## Blanks, digits and words -/

theorem isBlank_iff {character : Char} :
    isBlank character = true ↔ character = ' ' ∨ character = '\t' := by
  rw [isBlank, Bool.or_eq_true, beq_iff_eq, beq_iff_eq]

theorem isWord_of_isBlank (character : Char) (blank : isBlank character = true) :
    isWord character = false := by
  rcases isBlank_iff.mp blank with rfl | rfl
  · decide
  · decide

theorem isDigit_of_isBlank (character : Char) (blank : isBlank character = true) :
    character.isDigit = false := by
  rcases isBlank_iff.mp blank with rfl | rfl
  · decide
  · decide

theorem isBlank_of_isWord (character : Char) (word : isWord character = true) :
    isBlank character = false := by
  rw [Bool.eq_false_iff]
  intro blank
  rw [isWord_of_isBlank character blank] at word
  cases word

theorem isBlank_of_isDigit (character : Char) (digit : character.isDigit = true) :
    isBlank character = false := by
  rw [Bool.eq_false_iff]
  intro blank
  rw [isDigit_of_isBlank character blank] at digit
  cases digit

theorem isSpace_iff {character : Char} :
    isSpace character = true ↔ character = ' ' ∨ character = '\t' ∨ character = '\r' ∨
      character = '\x0c' ∨ character = '\x0b' := by
  rw [isSpace, Bool.or_eq_true, Bool.or_eq_true, Bool.or_eq_true, isBlank_iff, beq_iff_eq,
    beq_iff_eq, beq_iff_eq, or_assoc, or_assoc, or_assoc]

theorem isSpace_of_isWord (character : Char) (inWord : isWord character = true) :
    isSpace character = false := by
  rw [Bool.eq_false_iff]
  intro space
  have outside : isWord character = false := by
    rcases isSpace_iff.mp space with rfl | rfl | rfl | rfl | rfl
    · decide
    · decide
    · decide
    · decide
    · decide
  rw [outside] at inWord
  cases inWord

/-! ## Readers and printers -/

variable {Value : Type}

/-- The reader reads a value exactly where the text of the value stands and the text behind
it fits. -/
def Reads (reader : Reader Value) (render : Value → List Char)
    (fits : Value → List Char → Prop) : Prop :=
  ∀ text value rest, reader text = some (value, rest) ↔
    text = render value ++ rest ∧ fits value rest

namespace Reads

variable {reader : Reader Value} {render : Value → List Char} {fits : Value → List Char → Prop}

theorem eq_some_iff (reads : Reads reader render fits) {text rest : List Char} {value : Value} :
    reader text = some (value, rest) ↔ text = render value ++ rest ∧ fits value rest :=
  reads text value rest

theorem complete (reads : Reads reader render fits) {value : Value} {rest : List Char}
    (fit : fits value rest) : reader (render value ++ rest) = some (value, rest) :=
  reads.eq_some_iff.mpr ⟨rfl, fit⟩

/-- What a reader that goes on with a second one has read first. -/
theorem bind_eq_some_iff (reads : Reads reader render fits) {Result : Type} {text : List Char}
    {next : Value × List Char → Option Result} {result : Result} :
    (reader text >>= next) = some result ↔
      ∃ value behind, text = render value ++ behind ∧ fits value behind ∧
        next (value, behind) = some result := by
  rw [Option.bind_eq_bind, Option.bind_eq_some_iff]
  constructor
  · intro read
    rcases read with ⟨⟨value, behind⟩, read, returned⟩
    obtain ⟨split, fit⟩ := reads.eq_some_iff.mp read
    exact ⟨value, behind, split, fit, returned⟩
  · intro written
    rcases written with ⟨value, behind, split, fit, returned⟩
    exact ⟨(value, behind), reads.eq_some_iff.mpr ⟨split, fit⟩, returned⟩

end Reads

theorem after?_bind_eq_some_iff {Result : Type} {expected text : List Char}
    {next : List Char → Option Result} {result : Result} :
    (after? expected text >>= next) = some result ↔
      ∃ behind, text = expected ++ behind ∧ next behind = some result := by
  rw [Option.bind_eq_bind, Option.bind_eq_some_iff]
  simp only [after?_eq_some_iff]

theorem run?_reads (belongs : Char → Bool) :
    Reads (run? belongs) id fun run rest => IsRun belongs run ∧ Stops belongs rest := by
  intro text run rest
  unfold run?
  constructor
  · intro read
    split at read
    · cases read
    · next found nonempty =>
        obtain ⟨rfl, rfl⟩ := Prod.mk.inj (Option.some.inj read)
        obtain ⟨split, consists, stops⟩ := takeWhile_dropWhile_iff.mp ⟨rfl, rfl⟩
        exact ⟨split, ⟨nonempty, consists⟩, stops⟩
  · intro written
    rcases written with ⟨split, ⟨nonempty, consists⟩, stops⟩
    obtain ⟨taken, dropped⟩ := takeWhile_dropWhile_iff.mpr ⟨split, consists, stops⟩
    rw [taken, dropped]
    cases run with
    | nil => exact absurd rfl nonempty
    | cons first later => rfl

/-- A word that stops is the word at the front. -/
theorem word?_of_isRun {word rest : List Char} (isRun : IsRun isWord word)
    (stops : Stops isWord rest) : word? (word ++ rest) = some (word, rest) :=
  (run?_reads isWord).complete ⟨isRun, stops⟩

theorem blanks_eq_iff {text run rest : List Char} :
    blanks text = (run, rest) ↔ text = run ++ rest ∧ Consists isBlank run ∧ Stops isBlank rest := by
  rw [blanks, Prod.mk.injEq]
  exact takeWhile_dropWhile_iff

/-- A word that spells the keyword. -/
def Spells (keyword word : List Char) : Prop :=
  IsRun isWord word ∧ word.map keywordLetter = keyword

instance (keyword word : List Char) : Decidable (Spells keyword word) :=
  inferInstanceAs (Decidable (IsRun isWord word ∧ word.map keywordLetter = keyword))

theorem keyword?_reads (keyword : List Char) :
    Reads (keyword? keyword) id fun word rest => Spells keyword word ∧ Stops isWord rest := by
  intro text word rest
  unfold keyword? word?
  rw [(run?_reads isWord).bind_eq_some_iff]
  constructor
  · intro read
    rcases read with ⟨found, behind, split, ⟨isRun, stops⟩, spelled⟩
    dsimp only at spelled
    by_cases same : found.map keywordLetter = keyword
    · rw [if_pos same] at spelled
      obtain ⟨rfl, rfl⟩ := Prod.mk.inj (Option.some.inj spelled)
      exact ⟨split, ⟨isRun, same⟩, stops⟩
    · rw [if_neg same] at spelled
      cases spelled
  · intro written
    rcases written with ⟨split, ⟨isRun, spelled⟩, stops⟩
    exact ⟨word, rest, split, ⟨isRun, stops⟩, if_pos spelled⟩

/-- No keyword is read where the word at the front does not spell it. -/
theorem keyword?_of_not_spells {keyword text word rest : List Char}
    (front : word? text = some (word, rest)) (other : ¬ Spells keyword word) :
    keyword? keyword text = none := by
  have isRun := ((run?_reads isWord).eq_some_iff.mp front).2.1
  unfold keyword?
  rw [front]
  apply if_neg
  intro spelled
  exact other ⟨isRun, spelled⟩

theorem Spells.ne {keyword other word : List Char} (spells : Spells keyword word)
    (different : keyword ≠ other) : ¬ Spells other word := by
  intro otherwise
  exact different (spells.2.symm.trans otherwise.2)

theorem consists_ne_iff {mark : Char} {text : List Char} :
    Consists (· != mark) text ↔ mark ∉ text := by
  constructor
  · intro consists member
    exact bne_iff_ne.mp (consists mark member) rfl
  · intro absent character member
    refine bne_iff_ne.mpr ?_
    rintro rfl
    exact absent member

/-- A text up to a mark that it does not contain. -/
theorem until_mark_iff {mark : Char} {text body rest : List Char} :
    text.takeWhile (· != mark) = body ∧ text.dropWhile (· != mark) = mark :: rest ↔
      text = body ++ mark :: rest ∧ mark ∉ body := by
  rw [takeWhile_dropWhile_iff, consists_ne_iff, stops_cons, bne_self_eq_false]
  exact and_congr_right fun _ => and_iff_left rfl

theorem quotation?_reads :
    Reads quotation? renderQuotation fun body _ => '"' ∉ body := by
  intro text body rest
  unfold quotation? renderQuotation
  simp only [after?_bind_eq_some_iff]
  constructor
  · intro read
    rcases read with ⟨behind, rfl, tail, closed, returned⟩
    obtain ⟨rfl, rfl⟩ := Prod.mk.inj (Option.some.inj returned)
    obtain ⟨split, unquoted⟩ := until_mark_iff.mp ⟨rfl, closed⟩
    refine ⟨?_, unquoted⟩
    rw [List.cons_append, List.append_assoc]
    exact congrArg ('"' :: ·) split
  · intro written
    rcases written with ⟨rfl, unquoted⟩
    obtain ⟨taken, dropped⟩ := until_mark_iff.mpr ⟨rfl, unquoted⟩
    refine ⟨body ++ '"' :: rest, ?_, rest, dropped, ?_⟩
    · rw [List.cons_append, List.cons_append, List.append_assoc]
      rfl
    · rw [taken]
      rfl

/-! ## Parts that may be missing -/

/-- Text of a part that may be missing. -/
def renderOption (render : Value → List Char) : Option Value → List Char
  | none => []
  | some value => render value

/-- A part that is there fits, and a part that is missing cannot be read. -/
def FitsOption (reader : Reader Value) (fits : Value → List Char → Prop) :
    Option Value → List Char → Prop
  | none, rest => reader rest = none
  | some value, rest => fits value rest

theorem optionally_eq_iff {reader : Reader Value} {render : Value → List Char}
    {fits : Value → List Char → Prop} (reads : Reads reader render fits) {text rest : List Char}
    {found : Option Value} :
    optionally reader text = (found, rest) ↔
      text = renderOption render found ++ rest ∧ FitsOption reader fits found rest := by
  unfold optionally
  cases read : reader text with
  | none =>
      constructor
      · intro returned
        obtain ⟨rfl, rfl⟩ := Prod.mk.inj returned
        exact ⟨rfl, read⟩
      · intro written
        rcases written with ⟨rfl, fit⟩
        cases found with
        | none => rfl
        | some value =>
            rw [renderOption, reads.complete fit] at read
            cases read
  | some pair =>
      obtain ⟨value, behind⟩ := pair
      constructor
      · intro returned
        obtain ⟨rfl, rfl⟩ := Prod.mk.inj returned
        exact reads.eq_some_iff.mp read
      · intro written
        rcases written with ⟨rfl, fit⟩
        cases found with
        | none =>
            rw [renderOption, List.nil_append, fit] at read
            cases read
        | some expected =>
            rw [renderOption, reads.complete fit] at read
            obtain ⟨rfl, rfl⟩ := Prod.mk.inj (Option.some.inj read)
            rfl

theorem reason?_reads :
    Reads Item.reason? (fun reason => reason.1 ++ renderQuotation reason.2)
      fun reason _ => IsRun isBlank reason.1 ∧ '"' ∉ reason.2 := by
  intro text reason rest
  unfold Item.reason? someBlanks?
  rw [(run?_reads isBlank).bind_eq_some_iff]
  constructor
  · intro read
    rcases read with ⟨gap, behind, rfl, ⟨isRun, -⟩, read⟩
    obtain ⟨body, remainder, rfl, unquoted, returned⟩ := quotation?_reads.bind_eq_some_iff.mp read
    obtain ⟨rfl, rfl⟩ := Prod.mk.inj (Option.some.inj returned)
    exact ⟨(List.append_assoc gap _ _).symm, isRun, unquoted⟩
  · intro written
    rcases written with ⟨rfl, isRun, unquoted⟩
    refine ⟨reason.1, renderQuotation reason.2 ++ rest, List.append_assoc _ _ _,
      ⟨isRun, stops_cons.mpr rfl⟩, ?_⟩
    exact quotation?_reads.bind_eq_some_iff.mpr ⟨reason.2, rest, rfl, unquoted, rfl⟩

end CounterMachine.Source
