import CounterMachine.CommandLine.Request
import CounterMachine.Proofs.Sequencing
import CounterMachine.Proofs.Text.Decimal
import Mathlib.Data.List.Forall2
import Mathlib.Data.List.TakeWhile

/-!
Contract: the words of a command line, one at a time and in a row.

Owns: that plain words and numbers of either sign are values in every form, how words are bound
from the front, and that a command finds the words behind its name as they were typed.

Does not own: words that are short for a switch or ambiguous, and complaints.
-/

set_option autoImplicit false

namespace CounterMachine.CommandLine

open Text

namespace Form

/-! ## Single words -/

theorem word_of_plain (form : Form) {text : String} (plain : text.toList.head? ≠ some '-') :
    form.word text = .ok (.value text) := by
  unfold word
  cases spelled : text.toList with
  | nil => rfl
  | cons first later =>
      rw [spelled, List.head?_cons, ne_eq, Option.some.injEq] at plain
      simp only
      split
      · next same => exact absurd (List.cons.inj same).1 plain
      · rfl

/-- Not a switch of the form has a digit behind its dash. -/
def SparesNumbers (form : Form) : Prop :=
  ∀ spelled ∈ form.spellings, ∀ character ∈ spelled.1.toList.tail.head?,
    character.isDigit = false

theorem sparesNumbers_of_all {form : Form}
    (checked : (form.spellings.all fun spelled =>
      spelled.1.toList.tail.head?.all fun character => !character.isDigit) = true) :
    form.SparesNumbers := by
  intro spelled member character first
  have none := List.all_eq_true.mp checked spelled member
  rw [Option.mem_def.mp first, Option.all_some, Bool.not_eq_true'] at none
  exact none

private theorem splitAtEquals_of_not_mem {text : List Char} (absent : '=' ∉ text) :
    splitAtEquals text = (text, none) := by
  have other (character : Char) (member : character ∈ text) : (character != '=') = true := by
    rw [bne_iff_ne]
    rintro rfl
    exact absent member
  rw [splitAtEquals, List.takeWhile_eq_self_iff.mpr other, List.dropWhile_eq_nil_iff.mpr other]

private theorem word_of_negative {form : Form} (spares : form.SparesNumbers) {text : String}
    {digit : Char} {digits : List Char} (spelled : text.toList = '-' :: digit :: digits)
    (ascii : ∀ character ∈ digit :: digits, character.isDigit = true) :
    form.word text = .ok (.value text) := by
  have first := ascii digit List.mem_cons_self
  have noDash : digit ≠ '-' := by
    rintro rfl
    exact absurd first (by decide)
  have unknown (known : String × Switch) (member : known ∈ form.spellings)
      (rest : List Char) : String.ofList ('-' :: digit :: rest) ≠ known.1 := by
    intro same
    have found := spares known member digit (by rw [← same, String.toList_ofList]; rfl)
    rw [first] at found
    cases found
  have exact : form.spellings.lookup (String.ofList ('-' :: digit :: digits)) = none := by
    rw [List.lookup_eq_none_iff]
    intro known member
    rw [bne_iff_ne]
    exact unknown known member digits
  have noEquals : '=' ∉ '-' :: digit :: digits := by
    intro member
    rcases List.mem_cons.mp member with impossible | inDigits
    · exact absurd impossible (by decide)
    · exact absurd (ascii '=' inDigits) (by decide)
  have candidates : form.candidates ('-' :: digit :: digits) = [] := by
    unfold candidates
    split
    · next same => exact absurd (List.cons.inj (List.cons.inj same).2).1 noDash
    · next same =>
      obtain ⟨rfl, others⟩ := List.cons.inj same
      obtain ⟨rfl, rfl⟩ := List.cons.inj others
      rw [List.filterMap_eq_nil_iff]
      rintro ⟨name, switch⟩ member
      exact if_neg (unknown ⟨name, switch⟩ member []).symm
    · rfl
  have numeral : isNumeral (digit :: digits) = true :=
    List.all_eq_true.mpr fun character member =>
      isDecimalDigit_of_isDigit (ascii character member)
  have noLineEnd : (digit :: digits).getLast? ≠ some '\n' := fun last =>
    absurd (ascii '\n' (List.mem_of_getLast? last)) (by decide)
  have negative : looksNegative ('-' :: digit :: digits) = true := by
    simp only [looksNegative, if_neg noLineEnd, numeral, Bool.true_or]
  unfold word
  simp only [spelled, exact, splitAtEquals_of_not_mem noEquals, candidates, negative,
    Bool.true_or, if_true]

/-- A number is a value, even where it starts like a switch. -/
theorem word_decimal {form : Form} (spares : form.SparesNumbers) (value : Int) :
    form.word (decimal value) = .ok (.value (decimal value)) := by
  cases value with
  | ofNat number =>
      refine form.word_of_plain fun first => ?_
      rw [decimal, String.toList_ofList] at first
      exact absurd (isDigit_of_mem_decimalDigits (List.mem_of_mem_head? first)) (by decide)
  | negSucc number =>
      cases written : decimalDigits (number + 1) with
      | nil => exact absurd written (decimalDigits_ne_nil _)
      | cons digit digits =>
          have spelled : (decimal (.negSucc number)).toList = '-' :: digit :: digits := by
            rw [decimal, String.toList_ofList, written]
          refine word_of_negative spares spelled fun character member => ?_
          rw [← written] at member
          exact isDigit_of_mem_decimalDigits member

/-! ## Words in a row -/

/-- The text is read as the word wherever it stands before a pair of dashes. -/
def Reads (form : Form) (text : String) (word : Word) : Prop :=
  text ≠ "--" ∧ form.word text = .ok word

/-- What starts with no dash is read as a value. -/
theorem reads_plain (form : Form) {text : String} (plain : text.toList.head? ≠ some '-') :
    form.Reads text (.value text) := by
  refine ⟨?_, form.word_of_plain plain⟩
  rintro rfl
  exact plain rfl

/-- Words are read one by one, as long as none is a pair of dashes. -/
theorem words_eq_ok {form : Form} {texts : List String} {words : List Word}
    (each : List.Forall₂ form.Reads texts words) : form.words texts = .ok words := by
  induction each with
  | nil => rfl
  | cons head tail inductionHypothesis =>
      rw [Form.words, if_neg head.1, head.2, ok_bind, inductionHypothesis]
      rfl

theorem text_of_word {form : Form} {text : String} {word : Word}
    (read : form.word text = .ok word) : word.text = text := by
  unfold Form.word at read
  simp only at read
  repeat' split at read
  all_goals cases read
  all_goals rfl

theorem map_text_of_words {form : Form} {texts : List String} {words : List Word}
    (read : form.words texts = .ok words) : words.map Word.text = texts := by
  induction texts generalizing words with
  | nil =>
      cases read
      rfl
  | cons text later inductionHypothesis =>
      rw [Form.words] at read
      split at read
      · next dashes =>
        cases read
        rw [List.map_cons, List.map_map, dashes]
        exact congrArg ("--" :: ·) (List.map_id later)
      · obtain ⟨word, first, rest⟩ := bind_eq_ok.mp read
        obtain ⟨others, behind, same⟩ := bind_eq_ok.mp rest
        cases same
        rw [List.map_cons, text_of_word first, inductionHypothesis behind]

end Form

/-! ## Places -/

theorem Extent.take?_one {text : String} {behind : List Word}
    (noDashes : ∀ word ∈ behind.head?, word ≠ .dashes) :
    Extent.one.take? (.value text :: behind) = some ([.value text], behind) := by
  cases behind with
  | nil => rfl
  | cons word later =>
      cases word with
      | dashes => exact absurd rfl (noDashes .dashes rfl)
      | value text => rfl
      | known text spelling => rfl
      | unknown text => rfl

theorem Extent.take?_many {taken behind : List Word}
    (values : ∀ word ∈ taken, word.isSwitch = false)
    (stop : ∀ word ∈ behind.head?, word.isSwitch = true) :
    Extent.many.take? (taken ++ behind) = some (taken, behind) := by
  have front (word : Word) (member : word ∈ taken) : (!word.isSwitch) = true := by
    rw [values word member]
    rfl
  have back : behind.takeWhile (!·.isSwitch) = [] ∧ behind.dropWhile (!·.isSwitch) = behind := by
    cases behind with
    | nil => exact ⟨rfl, rfl⟩
    | cons word later => simp [stop word rfl]
  rw [Extent.take?, List.takeWhile_append_of_pos front, List.dropWhile_append_of_pos front,
    back.1, back.2, List.append_nil]

theorem bindPlaces_cons {place : Place} {places left : List Place}
    {words taken behind rest : List Word} {bindings : List Binding}
    (takes : place.extent.take? words = some (taken, behind))
    (later : bindPlaces places behind = (bindings, left, rest)) :
    bindPlaces (place :: places) words = (place.bind taken :: bindings, left, rest) := by
  rw [bindPlaces, takes]
  simp only [later]

/-- A place that takes values keeps them, unless a pair of dashes is among them. -/
theorem Place.bind_values {place : Place} (own : place.extent ≠ .remainder) {texts : List String}
    (noDashes : "--" ∉ texts) :
    place.bind (texts.map Word.value) = ⟨place.parameter, place.name, texts⟩ := by
  have same : (texts.map Word.value).map Word.text = texts := by
    rw [List.map_map]
    exact List.map_id texts
  simp only [Place.bind, if_neg own, same, List.erase_of_not_mem noDashes]

/-! ## Rounds of binding -/

namespace Form

/-- A known switch at the front is bound with what it takes from the words behind. -/
theorem bindWithin_known {form : Form} {fuel : Nat} {parsed : Parsed} {text : String}
    {spelling : Spelling} {behind rest : List Word} {bindings : List Binding}
    (bound : form.bindSwitch spelling behind = .ok (bindings, rest)) :
    form.bindWithin (fuel + 1) parsed (.known text spelling :: behind) =
      form.bindWithin fuel { parsed with bindings := parsed.bindings ++ bindings } rest := by
  rw [bindWithin, bound]

/-- Values at the front go to the places, and the words that these leave are bound next. -/
theorem bindWithin_value {form : Form} {fuel : Nat} {parsed : Parsed} {text : String}
    {behind rest : List Word} {bindings : List Binding} {left : List Place}
    (placed : bindPlaces parsed.left (.value text :: behind) = (bindings, left, rest))
    (shorter : rest.length ≤ behind.length) (switch : rest.any Word.isSwitch = true) :
    form.bindWithin (fuel + 1) parsed (.value text :: behind) =
      form.bindWithin fuel { parsed with bindings := parsed.bindings ++ bindings, left } rest := by
  have used : rest.length < (Word.value text :: behind).length := Nat.lt_succ_of_le shorter
  simp only [bindWithin, placed, if_pos used, switch, if_true, List.map_nil, List.append_nil,
    List.length_nil, List.drop_zero]

/-- Binding ends with values at the front when the places take all words. -/
theorem bindWithin_value_last {form : Form} {fuel : Nat} {parsed : Parsed} {text : String}
    {behind : List Word} {bindings : List Binding} {left : List Place}
    (placed : bindPlaces parsed.left (.value text :: behind) = (bindings, left, [])) :
    form.bindWithin (fuel + 1) parsed (.value text :: behind) =
      { parsed with bindings := parsed.bindings ++ bindings, left } := by
  simp [bindWithin, placed]

/-- Binding ends where no word and no place is left. -/
theorem bindWithin_nil {form : Form} {fuel : Nat} {parsed : Parsed} (full : parsed.left = []) :
    form.bindWithin fuel parsed [] = parsed := by
  cases fuel with
  | zero => rfl
  | succ fuel =>
      obtain ⟨bindings, extra, left, complaint⟩ := parsed
      cases full
      simp [bindWithin, bindPlaces]

end Form

/-! ## Choices -/

/-- A binding whose value can be read is a choice among the others. -/
theorem chooseAll_cons {form : Form} {choices next : Choices} {binding : Binding}
    (noHelp : binding.parameter ≠ .help) (chosen : choices.choose binding = .ok next)
    (later : List Binding) :
    chooseAll form choices (binding :: later) = chooseAll form next later := by
  rw [chooseAll, if_neg noHelp, chosen]

/-- A command is read when its choices are made, its places are filled and no word is left. -/
theorem readCommand_eq_ok {name : CommandName} {texts : List String} {bindings : List Binding}
    {choices : Choices} (parsed : name.form.parse texts = { bindings })
    (chosen : chooseAll name.form {} bindings = .ok choices) :
    readCommand name texts = .ok (choices.command name, []) := by
  rw [readCommand, parsed]
  simp only [chosen]
  rfl

/-! ## Commands -/

/-- The words behind the name of a command are left to it, if they can be told apart. -/
private theorem parse_programForm {name : CommandName} {texts : List String} {words : List Word}
    (read : programForm.words texts = .ok words) :
    programForm.parse (name.text :: texts) =
      { bindings := [⟨.command, "<command>", name.text :: texts⟩] } := by
  have first : programForm.Reads name.text (.value name.text) :=
    programForm.reads_plain (by cases name <;> decide)
  have all : programForm.words (name.text :: texts) = .ok (.value name.text :: words) := by
    rw [Form.words, if_neg first.1, first.2, read]
    rfl
  have placed : bindPlaces programForm.places (.value name.text :: words) =
      ([⟨.command, "<command>", name.text :: texts⟩], [], []) := by
    rw [← Form.map_text_of_words read]
    rfl
  rw [Form.parse, all]
  exact Form.bindWithin_value_last placed

private theorem find?_text (name : CommandName) :
    (CommandName.all.find? fun known => known.text == name.text) = some name := by
  cases name <;> decide

/-- A command that reads the words behind its name is what is asked for. -/
theorem Request.ofArguments_command {name : CommandName} {texts : List String}
    {words : List Word} (read : programForm.words texts = .ok words) {command : Command}
    (understood : readCommand name texts = .ok (command, [])) :
    Request.ofArguments (name.text :: texts) = .perform 0 command := by
  have opened : Opening.extend {} ⟨.command, "<command>", name.text :: texts⟩ =
      .ok ⟨0, some (command, [])⟩ := by
    simp only [Opening.extend, find?_text, understood]
    rfl
  rw [Request.ofArguments, readRequest, parse_programForm read]
  simp only [Opening.extendAll, opened]
  rfl

end CounterMachine.CommandLine
