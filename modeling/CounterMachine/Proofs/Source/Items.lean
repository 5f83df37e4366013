import CounterMachine.Proofs.Source.Operands

/-!
Contract: which item is read from the front of a text.

Owns: for every item the condition under which its text is read as that item, whatever stands
behind it, and the theorem that this condition is exact.

Does not own: texts of several items.

## Why an item depends on what stands behind it

Readers are tried in order and take the longest runs. A keyword is the item of its own only if
no mark behind it makes it a label or a register, and an optional part that is missing must
not be readable behind the item.
-/

set_option autoImplicit false

namespace CounterMachine.Source

open Text

/-- A mark behind a word makes it a label, or the register of an increment or decrement. -/
def isMark (character : Char) : Bool :=
  character == ':' || character == '+' || character == '-'

/-- The text of the item, with this text behind it, is read as the item. -/
def Item.Fits : Item → List Char → Prop
  | .newline, _ => True
  | .comment body, rest => '\n' ∉ body ∧ Stops (· != '\n') rest
  | .space body, rest => IsRun isSpace body ∧ Stops isSpace rest
  | .label name, _ => IsRun isWord name
  | .trace keyword, rest =>
      Spells ['t', 'r', 'a', 'c', 'e'] keyword ∧ Stops isWord rest ∧ Stops (· == ':') rest
  | .init keyword beforeRegister register beforeValue digits, rest =>
      Spells ['i', 'n', 'i', 't'] keyword ∧ IsRun isBlank beforeRegister ∧
        IsRun isWord register ∧ IsRun isBlank beforeValue ∧ IsRun Char.isDigit digits ∧
        Stops Char.isDigit rest
  | .inc register jump, rest =>
      IsRun isWord register ∧ ¬ Spells ['t', 'r', 'a', 'c', 'e'] register ∧
        FitsOption (arrow? target?) (Arrow.Fits WrittenTarget.Fits) jump rest
  | .dec register jump, rest =>
      IsRun isWord register ∧ ¬ Spells ['t', 'r', 'a', 'c', 'e'] register ∧
        FitsOption (arrow? arms?) (Arrow.Fits WrittenArms.Fits) jump rest
  | .halt keyword none, rest =>
      Spells ['h', 'a', 'l', 't'] keyword ∧ Stops isWord rest ∧ Stops isMark rest ∧
        Item.reason? rest = none
  | .halt keyword (some (gap, body)), _ =>
      Spells ['h', 'a', 'l', 't'] keyword ∧ IsRun isBlank gap ∧ '"' ∉ body
  | .eval keyword beforeDescription description beforeRegister register beforeSign
      afterSign code, rest =>
      Spells ['e', 'v', 'a', 'l'] keyword ∧ Consists isBlank beforeDescription ∧
        '"' ∉ description ∧ Consists isBlank beforeRegister ∧ IsRun isWord register ∧
        Consists isBlank beforeSign ∧ Consists isBlank afterSign ∧
        Stops isBlank (code ++ ';' :: rest) ∧ ';' ∉ code

namespace Item

/-! ## Items with a part that may be missing -/

private theorem render_inc (register : List Char) (jump : Option (Arrow WrittenTarget)) :
    render (.inc register jump) =
      register ++ '+' :: renderOption (Arrow.render WrittenTarget.render) jump := by
  cases jump with
  | none => rfl
  | some arrow => rfl

private theorem render_dec (register : List Char) (jump : Option (Arrow WrittenArms)) :
    render (.dec register jump) =
      register ++ '-' :: renderOption (Arrow.render WrittenArms.render) jump := by
  cases jump with
  | none => rfl
  | some arrow => rfl

private theorem render_halt (keyword : List Char) (reason : Option (List Char × List Char)) :
    render (.halt keyword reason) =
      keyword ++ renderOption (fun reason => reason.1 ++ renderQuotation reason.2) reason := by
  cases reason with
  | none => exact (List.append_nil keyword).symm
  | some pair => exact List.append_assoc keyword pair.1 _

/-! ## One reader at a time -/

section Readers

variable {text rest : List Char} {item : Item}

private theorem newline?_eq_some_iff :
    newline? text = some (item, rest) ↔ item = .newline ∧ text = item.render ++ rest := by
  unfold newline?
  rw [after?_bind_eq_some_iff]
  constructor
  · intro read
    rcases read with ⟨behind, rfl, returned⟩
    obtain ⟨rfl, rfl⟩ := Prod.mk.inj (Option.some.inj returned)
    exact ⟨rfl, rfl⟩
  · intro written
    rcases written with ⟨rfl, rfl⟩
    exact ⟨rest, rfl, rfl⟩

private theorem comment?_eq_some_iff :
    comment? text = some (item, rest) ↔
      ∃ body, item = .comment body ∧ text = item.render ++ rest ∧ item.Fits rest := by
  unfold comment?
  rw [after?_bind_eq_some_iff]
  constructor
  · intro read
    rcases read with ⟨behind, rfl, returned⟩
    obtain ⟨rfl, rfl⟩ := Prod.mk.inj (Option.some.inj returned)
    obtain ⟨split, consists, stops⟩ := takeWhile_dropWhile_iff.mp
      ⟨rfl, (rfl : behind.dropWhile (· != '\n') = _)⟩
    refine ⟨_, rfl, ?_, consists_ne_iff.mp consists, stops⟩
    exact congrArg ('/' :: '/' :: ·) split
  · intro written
    rcases written with ⟨body, rfl, rfl, plain, stops⟩
    obtain ⟨taken, dropped⟩ := takeWhile_dropWhile_iff.mpr
      ⟨(rfl : body ++ rest = _), consists_ne_iff.mpr plain, stops⟩
    refine ⟨body ++ rest, rfl, ?_⟩
    rw [taken, dropped]
    rfl

private theorem space?_eq_some_iff :
    space? text = some (item, rest) ↔
      ∃ body, item = .space body ∧ text = item.render ++ rest ∧ item.Fits rest := by
  unfold space?
  rw [(run?_reads isSpace).bind_eq_some_iff]
  constructor
  · intro read
    rcases read with ⟨body, behind, rfl, fit, returned⟩
    obtain ⟨rfl, rfl⟩ := Prod.mk.inj (Option.some.inj returned)
    exact ⟨body, rfl, rfl, fit⟩
  · intro written
    rcases written with ⟨body, rfl, rfl, fit⟩
    exact ⟨body, rest, rfl, fit, rfl⟩

private theorem isWord_colon : isWord ':' = false := by
  decide

private theorem isWord_plus : isWord '+' = false := by
  decide

private theorem isWord_minus : isWord '-' = false := by
  decide

theorem isWord_quotation : isWord '"' = false := by
  decide

private theorem label?_eq_some_iff :
    label? text = some (item, rest) ↔
      ∃ name, item = .label name ∧ text = item.render ++ rest ∧ item.Fits rest := by
  unfold label? word?
  rw [(run?_reads isWord).bind_eq_some_iff]
  constructor
  · intro read
    rcases read with ⟨name, behind, rfl, ⟨isRun, -⟩, read⟩
    obtain ⟨tail, rfl, returned⟩ := after?_bind_eq_some_iff.mp read
    obtain ⟨rfl, rfl⟩ := Prod.mk.inj (Option.some.inj returned)
    exact ⟨name, rfl, (List.append_assoc name [':'] tail).symm, isRun⟩
  · intro written
    rcases written with ⟨name, rfl, rfl, isRun⟩
    refine ⟨name, ':' :: rest, List.append_assoc name [':'] rest,
      ⟨isRun, stops_cons.mpr isWord_colon⟩, ?_⟩
    exact after?_bind_eq_some_iff.mpr ⟨rest, rfl, rfl⟩

private theorem trace?_eq_some_iff :
    trace? text = some (item, rest) ↔
      ∃ keyword, item = .trace keyword ∧ text = item.render ++ rest ∧
        Spells ['t', 'r', 'a', 'c', 'e'] keyword ∧ Stops isWord rest := by
  unfold trace?
  rw [(keyword?_reads _).bind_eq_some_iff]
  constructor
  · intro read
    rcases read with ⟨keyword, behind, rfl, fit, returned⟩
    obtain ⟨rfl, rfl⟩ := Prod.mk.inj (Option.some.inj returned)
    exact ⟨keyword, rfl, rfl, fit⟩
  · intro written
    rcases written with ⟨keyword, rfl, rfl, fit⟩
    exact ⟨keyword, rest, rfl, fit, rfl⟩

private theorem init?_eq_some_iff :
    init? text = some (item, rest) ↔
      ∃ keyword beforeRegister register beforeValue digits,
        item = .init keyword beforeRegister register beforeValue digits ∧
          text = item.render ++ rest ∧ item.Fits rest := by
  unfold init? someBlanks? word? digits?
  rw [(keyword?_reads _).bind_eq_some_iff]
  constructor
  · intro read
    rcases read with ⟨keyword, behind, rfl, ⟨spells, -⟩, read⟩
    obtain ⟨beforeRegister, behind, rfl, ⟨firstBlanks, -⟩, read⟩ :=
      (run?_reads isBlank).bind_eq_some_iff.mp read
    obtain ⟨register, behind, rfl, ⟨word, -⟩, read⟩ :=
      (run?_reads isWord).bind_eq_some_iff.mp read
    obtain ⟨beforeValue, behind, rfl, ⟨lastBlanks, -⟩, read⟩ :=
      (run?_reads isBlank).bind_eq_some_iff.mp read
    obtain ⟨digits, tail, rfl, ⟨number, stops⟩, returned⟩ :=
      (run?_reads Char.isDigit).bind_eq_some_iff.mp read
    obtain ⟨rfl, rfl⟩ := Prod.mk.inj (Option.some.inj returned)
    refine ⟨keyword, beforeRegister, register, beforeValue, digits, rfl, ?_, spells,
      firstBlanks, word, lastBlanks, number, stops⟩
    simp only [render, id, List.append_assoc]
  · intro written
    rcases written with ⟨keyword, beforeRegister, register, beforeValue, digits, rfl, rfl, spells,
      firstBlanks, word, lastBlanks, number, stops⟩
    simp only [render, List.append_assoc]
    refine ⟨keyword, _, rfl, ⟨spells, firstBlanks.stops_append isWord_of_isBlank _⟩, ?_⟩
    refine (run?_reads isBlank).bind_eq_some_iff.mpr ⟨beforeRegister, _, rfl,
      ⟨firstBlanks, word.stops_append isBlank_of_isWord _⟩, ?_⟩
    refine (run?_reads isWord).bind_eq_some_iff.mpr ⟨register, _, rfl,
      ⟨word, lastBlanks.stops_append isWord_of_isBlank _⟩, ?_⟩
    refine (run?_reads isBlank).bind_eq_some_iff.mpr ⟨beforeValue, _, rfl,
      ⟨lastBlanks, number.stops_append isBlank_of_isDigit _⟩, ?_⟩
    exact (run?_reads Char.isDigit).bind_eq_some_iff.mpr
      ⟨digits, rest, rfl, ⟨number, stops⟩, rfl⟩

/-- A register, the mark of its instruction, and a jump that may be missing. -/
private theorem marked_eq_some_iff {Jump : Type} {jump? : Reader Jump}
    {renderJump : Jump → List Char} {fits : Jump → List Char → Prop}
    (reads : Reads jump? renderJump fits) {mark : Char} (outside : isWord mark = false)
    {build : List Char → Option Jump → Item}
    (renders : ∀ register jump,
      (build register jump).render = register ++ mark :: renderOption renderJump jump) :
    ((word? text).bind fun front => (after? [mark] front.2).bind fun behind =>
        some (build front.1 (optionally jump? behind).1, (optionally jump? behind).2)) =
        some (item, rest) ↔
      ∃ register jump, item = build register jump ∧ text = item.render ++ rest ∧
        IsRun isWord register ∧ FitsOption jump? fits jump rest := by
  constructor
  · intro read
    rcases (run?_reads isWord).bind_eq_some_iff.mp read with ⟨register, front, split, fit, read⟩
    rcases after?_bind_eq_some_iff.mp read with ⟨behind, marked, returned⟩
    rcases optional : optionally jump? behind with ⟨jump, remainder⟩
    rw [optional] at returned
    obtain ⟨rfl, rfl⟩ := Prod.mk.inj (Option.some.inj returned)
    have jumpFits := (optionally_eq_iff reads).mp optional
    refine ⟨register, jump, rfl, ?_, fit.1, jumpFits.2⟩
    rw [split, renders, show front = mark :: behind from marked, jumpFits.1, List.append_assoc]
    rfl
  · intro written
    rcases written with ⟨register, jump, rfl, rfl, isRun, fit⟩
    have optional := (optionally_eq_iff reads).mpr ⟨rfl, fit⟩
    rw [renders, List.append_assoc]
    apply (run?_reads isWord).bind_eq_some_iff.mpr
    refine ⟨register, _, rfl, ⟨isRun, stops_cons.mpr outside⟩, ?_⟩
    apply after?_bind_eq_some_iff.mpr
    refine ⟨renderOption renderJump jump ++ rest, rfl, ?_⟩
    rw [optional]

private theorem inc?_eq_some_iff :
    inc? text = some (item, rest) ↔
      ∃ register jump, item = .inc register jump ∧ text = item.render ++ rest ∧
        IsRun isWord register ∧
        FitsOption (arrow? target?) (Arrow.Fits WrittenTarget.Fits) jump rest := by
  exact marked_eq_some_iff targetArrow?_reads isWord_plus render_inc

private theorem dec?_eq_some_iff :
    dec? text = some (item, rest) ↔
      ∃ register jump, item = .dec register jump ∧ text = item.render ++ rest ∧
        IsRun isWord register ∧
        FitsOption (arrow? arms?) (Arrow.Fits WrittenArms.Fits) jump rest := by
  exact marked_eq_some_iff armsArrow?_reads isWord_minus render_dec

private theorem halt?_eq_some_iff :
    halt? text = some (item, rest) ↔
      ∃ keyword reason, item = .halt keyword reason ∧ text = item.render ++ rest ∧
        Spells ['h', 'a', 'l', 't'] keyword ∧
        Stops isWord (renderOption (fun reason => reason.1 ++ renderQuotation reason.2) reason ++
          rest) ∧
        FitsOption reason? (fun reason _ => IsRun isBlank reason.1 ∧ '"' ∉ reason.2) reason
          rest := by
  unfold halt?
  rw [(keyword?_reads _).bind_eq_some_iff]
  constructor
  · intro read
    rcases read with ⟨keyword, behind, rfl, ⟨spells, stops⟩, read⟩
    rcases optional : optionally reason? behind with ⟨reason, remainder⟩
    simp only [optional] at read
    obtain ⟨rfl, rfl⟩ := Prod.mk.inj (Option.some.inj read)
    have fit := (optionally_eq_iff reason?_reads).mp optional
    rw [fit.1] at stops
    refine ⟨keyword, reason, rfl, ?_, spells, stops, fit.2⟩
    rw [fit.1, render_halt]
    exact (List.append_assoc keyword _ remainder).symm
  · intro written
    rcases written with ⟨keyword, reason, rfl, rfl, spells, stops, fit⟩
    have optional := (optionally_eq_iff reason?_reads).mpr ⟨rfl, fit⟩
    rw [render_halt, List.append_assoc]
    refine ⟨keyword, _, rfl, ⟨spells, stops⟩, ?_⟩
    dsimp only
    rw [optional]
    rfl

private theorem eval?_eq_some_iff :
    eval? text = some (item, rest) ↔
      ∃ keyword beforeDescription description beforeRegister register beforeSign afterSign code,
        item = .eval keyword beforeDescription description beforeRegister register beforeSign
          afterSign code ∧ text = item.render ++ rest ∧ item.Fits rest := by
  unfold eval? word?
  rw [(keyword?_reads _).bind_eq_some_iff]
  constructor
  · intro read
    rcases read with ⟨keyword, behindKeyword, keywordText, ⟨spells, -⟩, read⟩
    rcases first : blanks behindKeyword with ⟨beforeDescription, tail⟩
    simp only [first] at read
    rcases quotation?_reads.bind_eq_some_iff.mp read with
      ⟨description, behindDescription, descriptionText, unquoted, read⟩
    rcases second : blanks behindDescription with ⟨beforeRegister, tail⟩
    simp only [second] at read
    rcases (run?_reads isWord).bind_eq_some_iff.mp read with
      ⟨register, behindRegister, registerText, ⟨word, -⟩, read⟩
    rcases third : blanks behindRegister with ⟨beforeSign, tail⟩
    simp only [third] at read
    rcases after?_bind_eq_some_iff.mp read with ⟨behindSign, signText, read⟩
    rcases fourth : blanks behindSign with ⟨afterSign, codeText⟩
    simp only [fourth] at read
    rcases after?_bind_eq_some_iff.mp read with ⟨remainder, ended, returned⟩
    obtain ⟨code, taken⟩ : ∃ code, codeText.takeWhile (· != ';') = code := ⟨_, rfl⟩
    rw [taken] at returned
    obtain ⟨rfl, rfl⟩ := Prod.mk.inj (Option.some.inj returned)
    have firstBlanks := blanks_eq_iff.mp first
    have secondBlanks := blanks_eq_iff.mp second
    have thirdBlanks := blanks_eq_iff.mp third
    have fourthBlanks := blanks_eq_iff.mp fourth
    have codeParts : codeText = code ++ ';' :: remainder ∧ ';' ∉ code :=
      until_mark_iff.mp ⟨taken, ended⟩
    have stops := fourthBlanks.2.2
    rw [codeParts.1] at stops
    refine ⟨keyword, beforeDescription, description, beforeRegister, register, beforeSign,
      afterSign, code, rfl, ?_, spells, firstBlanks.2.1, unquoted, secondBlanks.2.1, word,
      thirdBlanks.2.1, fourthBlanks.2.1, stops, codeParts.2⟩
    rw [keywordText, firstBlanks.1, descriptionText, secondBlanks.1, registerText,
      thirdBlanks.1, signText, fourthBlanks.1, codeParts.1]
    simp only [render, id, List.append_assoc, List.cons_append, List.nil_append]
  · intro written
    rcases written with ⟨keyword, beforeDescription, description, beforeRegister, register,
      beforeSign, afterSign, code, rfl, rfl, spells, firstBlanks, unquoted, secondBlanks, word,
      thirdBlanks, fourthBlanks, codeStops, unended⟩
    have codeText : (code ++ ';' :: rest).takeWhile (· != ';') = code ∧
        (code ++ ';' :: rest).dropWhile (· != ';') = ';' :: rest :=
      until_mark_iff.mpr ⟨rfl, unended⟩
    have fourth := blanks_eq_iff.mpr ⟨rfl, fourthBlanks, codeStops⟩
    have signStops : Stops isBlank (':' :: ':' :: '=' :: (afterSign ++ (code ++ ';' :: rest))) :=
      stops_cons.mpr rfl
    have third := blanks_eq_iff.mpr ⟨rfl, thirdBlanks, signStops⟩
    have registerStops := thirdBlanks.stops_append isWord_of_isBlank
      (stops_cons.mpr isWord_colon :
        Stops isWord (':' :: ':' :: '=' :: (afterSign ++ (code ++ ';' :: rest))))
    have second := blanks_eq_iff.mpr ⟨rfl, secondBlanks, word.stops_append isBlank_of_isWord
      (beforeSign ++ ':' :: ':' :: '=' :: (afterSign ++ (code ++ ';' :: rest)))⟩
    have quotationStops : ∀ others, Stops isBlank (renderQuotation description ++ others) :=
      fun _ => stops_cons.mpr rfl
    have first := blanks_eq_iff.mpr ⟨rfl, firstBlanks, quotationStops
      (beforeRegister ++ (register ++
        (beforeSign ++ ':' :: ':' :: '=' :: (afterSign ++ (code ++ ';' :: rest)))))⟩
    simp only [render, List.append_assoc, List.cons_append, List.nil_append]
    refine ⟨keyword, _, rfl, ⟨spells, ?_⟩, ?_⟩
    · exact firstBlanks.stops_append isWord_of_isBlank (stops_cons.mpr isWord_quotation)
    · simp only [first]
      apply quotation?_reads.bind_eq_some_iff.mpr
      refine ⟨description, _, rfl, unquoted, ?_⟩
      simp only [second]
      apply (run?_reads isWord).bind_eq_some_iff.mpr
      refine ⟨register, _, rfl, ⟨word, registerStops⟩, ?_⟩
      simp only [third]
      apply after?_bind_eq_some_iff.mpr
      refine ⟨afterSign ++ (code ++ ';' :: rest), rfl, ?_⟩
      simp only [fourth]
      apply after?_bind_eq_some_iff.mpr
      refine ⟨rest, codeText.2, ?_⟩
      rw [codeText.1]
      rfl

/-! ## The readers in order -/

private theorem findSome?_cons (reader : Reader Item) (others : List (Reader Item)) :
    ((reader :: others).findSome? fun each => each text) =
      (reader text).or (others.findSome? fun each => each text) := by
  rw [List.findSome?_cons]
  cases reader text with
  | none => rfl
  | some read => rfl

private theorem read?_eq_or :
    read? text = ((newline? text).or <| (comment? text).or <| (space? text).or <|
      (label? text).or <| (trace? text).or <| (init? text).or <| (inc? text).or <|
      (dec? text).or <| (halt? text).or <| eval? text) := by
  simp only [read?, readers, findSome?_cons, List.findSome?_nil, Option.or_none]

end Readers

section Front

variable {text word behind : List Char}

private theorem newline?_of_isRun {belongs : Char → Bool} {run : List Char}
    (isRun : IsRun belongs run) (outside : belongs '\n' = false) (behind : List Char) :
    newline? (run ++ behind) = none := by
  unfold newline?
  rw [after?_of_stops (isRun.stops_mark outside behind)]
  rfl

private theorem comment?_of_isRun {belongs : Char → Bool} {run : List Char}
    (isRun : IsRun belongs run) (outside : belongs '/' = false) (behind : List Char) :
    comment? (run ++ behind) = none := by
  unfold comment?
  rw [after?_of_stops (isRun.stops_mark outside behind)]
  rfl

private theorem space?_of_isRun (isRun : IsRun isWord word) (behind : List Char) :
    space? (word ++ behind) = none := by
  unfold space?
  rw [run?_of_stops (isRun.stops_append isSpace_of_isWord behind)]
  rfl

/-- Where neither a line end nor a comment nor white space is, a word must be. -/
private theorem read?_of_word (front : word? text = some (word, behind)) :
    read? text = ((label? text).or <| (trace? text).or <| (init? text).or <|
      (inc? text).or <| (dec? text).or <| (halt? text).or <| eval? text) := by
  have newline : isWord '\n' = false := by decide
  have slash : isWord '/' = false := by decide
  rcases (run?_reads isWord).eq_some_iff.mp front with ⟨rfl, isRun, -⟩
  rw [read?_eq_or, id, newline?_of_isRun isRun newline, comment?_of_isRun isRun slash,
    space?_of_isRun isRun]
  rfl

/-- A mark behind the word is all that a reader of marked words needs. -/
private theorem after?_bind_eq_none_iff {mark : Char} {next : List Char → Item × List Char} :
    ((after? [mark] behind).bind fun rest => some (next rest)) = none ↔
      Stops (· == mark) behind := by
  rw [← after?_eq_none_iff]
  cases after? [mark] behind with
  | none => exact ⟨fun _ => rfl, fun _ => rfl⟩
  | some rest =>
      constructor
      · intro impossible
        cases impossible
      · intro impossible
        cases impossible

variable (front : word? text = some (word, behind))
include front

private theorem label?_eq_none_iff : label? text = none ↔ Stops (· == ':') behind := by
  unfold label?
  rw [front]
  exact after?_bind_eq_none_iff

private theorem inc?_eq_none_iff : inc? text = none ↔ Stops (· == '+') behind := by
  unfold inc?
  rw [front]
  exact after?_bind_eq_none_iff

private theorem dec?_eq_none_iff : dec? text = none ↔ Stops (· == '-') behind := by
  unfold dec?
  rw [front]
  exact after?_bind_eq_none_iff

private theorem keyword?_of_spells {keyword : List Char} (spells : Spells keyword word) :
    keyword? keyword text = some (word, behind) := by
  have fit := (run?_reads isWord).eq_some_iff.mp front
  exact (keyword?_reads keyword).eq_some_iff.mpr ⟨fit.1, spells, fit.2.2⟩

private theorem trace?_eq_none_iff :
    trace? text = none ↔ ¬ Spells ['t', 'r', 'a', 'c', 'e'] word := by
  unfold trace?
  constructor
  · intro absent spells
    rw [keyword?_of_spells front spells] at absent
    cases absent
  · intro other
    rw [keyword?_of_not_spells front other]
    rfl

private theorem init?_of_not_spells (other : ¬ Spells ['i', 'n', 'i', 't'] word) :
    init? text = none := by
  unfold init?
  rw [keyword?_of_not_spells front other]
  rfl

private theorem init?_of_stops (stops : Stops isBlank behind) : init? text = none := by
  by_cases spells : Spells ['i', 'n', 'i', 't'] word
  · unfold init?
    rw [keyword?_of_spells front spells]
    show (run? isBlank behind).bind _ = none
    rw [run?_of_stops stops]
    rfl
  · exact init?_of_not_spells front spells

private theorem halt?_of_not_spells (other : ¬ Spells ['h', 'a', 'l', 't'] word) :
    halt? text = none := by
  unfold halt?
  rw [keyword?_of_not_spells front other]
  rfl

end Front

private theorem stops_isMark_iff {rest : List Char} :
    Stops isMark rest ↔ Stops (· == ':') rest ∧ Stops (· == '+') rest ∧ Stops (· == '-') rest := by
  cases rest with
  | nil => exact ⟨fun _ => ⟨stops_nil, stops_nil, stops_nil⟩, fun _ => stops_nil⟩
  | cons first later =>
      rw [stops_cons, stops_cons, stops_cons, stops_cons, isMark, Bool.or_eq_false_iff,
        Bool.or_eq_false_iff, and_assoc]

/-- What is read fits, the earlier readers having failed. -/
private theorem fits_of_read? {text rest : List Char} {item : Item}
    (read : read? text = some (item, rest)) : text = item.render ++ rest ∧ item.Fits rest := by
  rw [read?_eq_or] at read
  simp only [Option.or_eq_some_iff] at read
  rcases read with newline | ⟨-, comment | ⟨-, space | ⟨-, label | ⟨notLabel, trace |
    ⟨notTrace, init | ⟨-, inc | ⟨notInc, dec | ⟨notDec, halt | ⟨-, eval⟩⟩⟩⟩⟩⟩⟩⟩⟩
  · obtain ⟨rfl, split⟩ := newline?_eq_some_iff.mp newline
    exact ⟨split, trivial⟩
  · obtain ⟨body, -, fit⟩ := comment?_eq_some_iff.mp comment
    exact fit
  · obtain ⟨body, -, fit⟩ := space?_eq_some_iff.mp space
    exact fit
  · obtain ⟨name, -, fit⟩ := label?_eq_some_iff.mp label
    exact fit
  · obtain ⟨keyword, rfl, split, spells, stops⟩ := trace?_eq_some_iff.mp trace
    have front : word? text = some (keyword, rest) :=
      (run?_reads isWord).eq_some_iff.mpr ⟨split, spells.1, stops⟩
    exact ⟨split, spells, stops, (label?_eq_none_iff front).mp notLabel⟩
  · obtain ⟨-, -, -, -, -, -, fit⟩ := init?_eq_some_iff.mp init
    exact fit
  · obtain ⟨register, jump, rfl, split, isRun, fit⟩ := inc?_eq_some_iff.mp inc
    have parts := split
    rw [render_inc, List.append_assoc] at parts
    have front := (run?_reads isWord).eq_some_iff.mpr
      ⟨parts, isRun, stops_cons.mpr isWord_plus⟩
    exact ⟨split, isRun, (trace?_eq_none_iff front).mp notTrace, fit⟩
  · obtain ⟨register, jump, rfl, split, isRun, fit⟩ := dec?_eq_some_iff.mp dec
    have parts := split
    rw [render_dec, List.append_assoc] at parts
    have front := (run?_reads isWord).eq_some_iff.mpr
      ⟨parts, isRun, stops_cons.mpr isWord_minus⟩
    exact ⟨split, isRun, (trace?_eq_none_iff front).mp notTrace, fit⟩
  · obtain ⟨keyword, reason, rfl, split, spells, stops, fit⟩ := halt?_eq_some_iff.mp halt
    cases reason with
    | some pair => exact ⟨split, spells, fit⟩
    | none =>
        have front : word? text = some (keyword, rest) :=
          (run?_reads isWord).eq_some_iff.mpr ⟨split, spells.1, stops⟩
        have unmarked := stops_isMark_iff.mpr ⟨(label?_eq_none_iff front).mp notLabel,
          (inc?_eq_none_iff front).mp notInc, (dec?_eq_none_iff front).mp notDec⟩
        exact ⟨split, spells, stops, unmarked, fit⟩
  · obtain ⟨-, -, -, -, -, -, -, -, -, fit⟩ := eval?_eq_some_iff.mp eval
    exact fit

private theorem isMark_of_isBlank (character : Char) (blank : isBlank character = true) :
    isMark character = false := by
  rcases isBlank_iff.mp blank with rfl | rfl
  · rfl
  · rfl

/-- An unmarked word can only be a keyword. -/
private theorem read?_of_unmarked {text word behind : List Char}
    (front : word? text = some (word, behind)) (unmarked : Stops isMark behind)
    (notTrace : ¬ Spells ['t', 'r', 'a', 'c', 'e'] word) :
    read? text = ((init? text).or <| (halt? text).or <| eval? text) := by
  obtain ⟨notLabel, notInc, notDec⟩ := stops_isMark_iff.mp unmarked
  rw [read?_of_word front, (label?_eq_none_iff front).mpr notLabel,
    (trace?_eq_none_iff front).mpr notTrace, (inc?_eq_none_iff front).mpr notInc,
    (dec?_eq_none_iff front).mpr notDec]
  rfl

/-- A word before a sign is neither a label nor a keyword with blanks behind it. -/
private theorem read?_of_signed {register behind : List Char} {sign : Char}
    (isRun : IsRun isWord register) (outside : isWord sign = false)
    (notColon : (sign == ':') = false) (notBlank : isBlank sign = false)
    (notTrace : ¬ Spells ['t', 'r', 'a', 'c', 'e'] register) :
    read? (register ++ sign :: behind) =
      ((inc? (register ++ sign :: behind)).or <| (dec? (register ++ sign :: behind)).or <|
        (halt? (register ++ sign :: behind)).or <| eval? (register ++ sign :: behind)) := by
  have front : word? (register ++ sign :: behind) = some (register, sign :: behind) :=
    word?_of_isRun isRun (stops_cons.mpr outside)
  rw [read?_of_word front, (label?_eq_none_iff front).mpr (stops_cons.mpr notColon),
    (trace?_eq_none_iff front).mpr notTrace, init?_of_stops front (stops_cons.mpr notBlank)]
  rfl

/-- Behind the keyword of a halt, with a reason or without, stands neither a word character nor
a mark. -/
private theorem parts_of_fits_halt {keyword rest : List Char}
    {reason : Option (List Char × List Char)} (fit : (Item.halt keyword reason).Fits rest) :
    Spells ['h', 'a', 'l', 't'] keyword ∧
      Stops isWord (renderOption (fun reason => reason.1 ++ renderQuotation reason.2) reason ++
        rest) ∧
      Stops isMark (renderOption (fun reason => reason.1 ++ renderQuotation reason.2) reason ++
        rest) ∧
      FitsOption reason? (fun reason _ => IsRun isBlank reason.1 ∧ '"' ∉ reason.2) reason
        rest := by
  cases reason with
  | none => exact ⟨fit.1, fit.2.1, fit.2.2.1, fit.2.2.2⟩
  | some pair =>
      refine ⟨fit.1, ?_, ?_, fit.2⟩
      · rw [renderOption, List.append_assoc]
        exact fit.2.1.stops_append isWord_of_isBlank _
      · rw [renderOption, List.append_assoc]
        exact fit.2.1.stops_append isMark_of_isBlank _

/-- What fits is read, no earlier reader being in its way. -/
private theorem read?_of_fits {rest : List Char} {item : Item} (fit : item.Fits rest) :
    read? (item.render ++ rest) = some (item, rest) := by
  cases item with
  | newline =>
      rw [read?_eq_or, newline?_eq_some_iff.mpr ⟨rfl, rfl⟩]
      rfl
  | comment body =>
      have absent : newline? ('/' :: '/' :: body ++ rest) = none := rfl
      rw [read?_eq_or, comment?_eq_some_iff.mpr ⟨body, rfl, rfl, fit⟩, render, absent]
      rfl
  | space body =>
      have newline := newline?_of_isRun fit.1 rfl rest
      have comment := comment?_of_isRun fit.1 rfl rest
      rw [read?_eq_or, space?_eq_some_iff.mpr ⟨body, rfl, rfl, fit⟩, render, newline, comment]
      rfl
  | label name =>
      have front : word? (render (.label name) ++ rest) = some (name, ':' :: rest) := by
        rw [render, List.append_assoc]
        exact word?_of_isRun fit (stops_cons.mpr isWord_colon)
      rw [read?_of_word front, label?_eq_some_iff.mpr ⟨name, rfl, rfl, fit⟩]
      rfl
  | trace keyword =>
      obtain ⟨spells, stops, notLabel⟩ := fit
      have front : word? (render (.trace keyword) ++ rest) = some (keyword, rest) :=
        word?_of_isRun spells.1 stops
      rw [read?_of_word front, (label?_eq_none_iff front).mpr notLabel,
        trace?_eq_some_iff.mpr ⟨keyword, rfl, rfl, spells, stops⟩]
      rfl
  | init keyword beforeRegister register beforeValue digits =>
      have spells := fit.1
      have firstBlanks := fit.2.1
      have front := word?_of_isRun spells.1 (firstBlanks.stops_append isWord_of_isBlank
        (register ++ (beforeValue ++ (digits ++ rest))))
      have read := read?_of_unmarked front (firstBlanks.stops_append isMark_of_isBlank _)
        (spells.ne (by decide))
      have own := init?_eq_some_iff.mpr ⟨_, _, _, _, _, rfl, rfl, fit⟩
      simp only [render, List.append_assoc] at own ⊢
      rw [read, own]
      rfl
  | inc register jump =>
      obtain ⟨isRun, notTrace, jumpFits⟩ := fit
      have own := inc?_eq_some_iff.mpr ⟨register, jump, rfl, rfl, isRun, jumpFits⟩
      rw [render_inc, List.append_assoc, List.cons_append] at own ⊢
      rw [read?_of_signed isRun isWord_plus rfl rfl notTrace, own]
      rfl
  | dec register jump =>
      obtain ⟨isRun, notTrace, jumpFits⟩ := fit
      have own := dec?_eq_some_iff.mpr ⟨register, jump, rfl, rfl, isRun, jumpFits⟩
      rw [render_dec, List.append_assoc, List.cons_append] at own ⊢
      have front := word?_of_isRun isRun (stops_cons.mpr isWord_minus :
        Stops isWord ('-' :: (renderOption (Arrow.render WrittenArms.render) jump ++ rest)))
      rw [read?_of_signed isRun isWord_minus rfl rfl notTrace,
        (inc?_eq_none_iff front).mpr (stops_cons.mpr rfl), own]
      rfl
  | halt keyword reason =>
      obtain ⟨spells, stops, unmarked, reasonFits⟩ := parts_of_fits_halt fit
      have front := word?_of_isRun spells.1 stops
      have read := read?_of_unmarked front unmarked (spells.ne (by decide))
      have own := halt?_eq_some_iff.mpr ⟨keyword, reason, rfl, rfl, spells, stops, reasonFits⟩
      rw [init?_of_not_spells front (spells.ne (by decide))] at read
      rw [render_halt, List.append_assoc] at own ⊢
      rw [read, own]
      rfl
  | eval keyword beforeDescription description beforeRegister register beforeSign afterSign
      code =>
      have spells := fit.1
      have firstBlanks := fit.2.1
      have own := eval?_eq_some_iff.mpr ⟨_, _, _, _, _, _, _, _, rfl, rfl, fit⟩
      have stops (others : List Char) :
          Stops isWord (beforeDescription ++ (renderQuotation description ++ others)) :=
        firstBlanks.stops_append isWord_of_isBlank (stops_cons.mpr isWord_quotation)
      have unmarked (others : List Char) :
          Stops isMark (beforeDescription ++ (renderQuotation description ++ others)) :=
        firstBlanks.stops_append isMark_of_isBlank (stops_cons.mpr rfl)
      have front := word?_of_isRun spells.1 (stops (beforeRegister ++ (register ++
        (beforeSign ++ ':' :: ':' :: '=' :: (afterSign ++ (code ++ ';' :: rest))))))
      have read := read?_of_unmarked front (unmarked _) (spells.ne (by decide))
      rw [init?_of_not_spells front (spells.ne (by decide)),
        halt?_of_not_spells front (spells.ne (by decide))] at read
      simp only [render, List.append_assoc, List.cons_append, List.nil_append] at own ⊢
      rw [read, own]
      rfl

/-- An item is read exactly where its text stands and the text behind it fits. -/
theorem read?_reads : Reads read? render Fits := by
  intro text item rest
  constructor
  · exact fits_of_read?
  · intro written
    rcases written with ⟨rfl, fit⟩
    exact read?_of_fits fit

end Item

end CounterMachine.Source
