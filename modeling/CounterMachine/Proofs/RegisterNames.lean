import CounterMachine.Proofs.Expression.Combinators
import CounterMachine.Proofs.Machine.Invariant

/-!
Contract: what a word means as the name of a register, wherever one may stand.

Owns: that the instructions which name a register read every word as the same register, in lower
case; the one word that cannot be counted up or down; and that an expression which is a name has
the value of that register.

Does not own: words that an expression does not read as names.

## Why the keywords are no exception

A keyword is an item of its own only with its own parts behind it, and a plus or minus sign is
none of them. The trace marker has no parts: it is read first, and the sign is left over.
-/

set_option autoImplicit false

namespace CounterMachine

open Text Source

/-- The text as a whole is read as one instruction. -/
def ReadAs (limit : DigitLimit) (text file : String) (operation : Operation Target) : Prop :=
  parse limit text file = .ok [.instruction ⟨operation, text, 1, false, none⟩]

/-- An item that is complete at the end of the text is all that is read. -/
private theorem readAs_of_item {limit : DigitLimit} {text : String} {item : Item}
    {operation : Operation Target} (written : text.toList = item.render) (fit : item.Fits [])
    (admitted : item.Admitted limit) (standsFor : item.operation? = some operation)
    (file : String) : ReadAs limit text file operation := by
  have token : item.token? 1 = some (.instruction ⟨operation, text, 1, false, none⟩) := by
    apply Item.token?_eq_instruction_iff.mpr
    refine ⟨operation, standsFor, ?_⟩
    rw [← written, String.ofList_toList]
  apply parse_eq_ok_iff.mpr
  refine ⟨[item], ?_, ⟨fit, trivial⟩, List.forall_mem_singleton.mpr admitted, ?_⟩
  · rw [renderItems_cons, renderItems_nil, List.append_nil, written]
  · show _ = (item.token? 1).toList ++ []
    rw [token]
    rfl

/-! ## Instructions -/

/-- The blanks that a code starts with make no difference to it. -/
private theorem strip_append_of_blanks {blanks : List Char} (isBlanks : Consists isBlank blanks)
    (code : List Char) : strip (blanks ++ code) = strip code := by
  have separators : ∀ character ∈ blanks, isSeparator character = true := fun character member =>
    isSeparator_of_isBlank (isBlanks character member)
  rw [strip_eq_rdropWhile, List.dropWhile_append_of_pos separators, strip_eq_rdropWhile]

section Instructions

variable {limit : DigitLimit} {word : String} (isRun : IsRun isWord word.toList) (file : String)
include isRun

private theorem readAs_init (admitted : limit.admits 1 = true) :
    ReadAs limit ("init " ++ word ++ " 0") file (.init (lowered word.toList) 0) := by
  have spells : Spells ['i', 'n', 'i', 't'] ['i', 'n', 'i', 't'] := by decide
  have oneBlank : IsRun isBlank [' '] := by decide
  have oneDigit : IsRun Char.isDigit ['0'] := by decide
  have written : ("init " ++ word ++ " 0").toList =
      Item.render (.init ['i', 'n', 'i', 't'] [' '] word.toList [' '] ['0']) := by
    simp only [Item.render, String.toList_append, List.append_assoc]
    rfl
  have fit : Item.Fits (.init ['i', 'n', 'i', 't'] [' '] word.toList [' '] ['0']) [] :=
    ⟨spells, oneBlank, isRun, oneBlank, oneDigit, stops_nil⟩
  exact readAs_of_item written fit (List.forall_mem_singleton.mpr admitted) rfl file

private theorem readAs_eval {description code : String} (unquoted : '"' ∉ description.toList)
    (unended : ';' ∉ code.toList) :
    ReadAs limit ("eval \"" ++ description ++ "\" " ++ word ++ " ::= " ++ code ++ ";") file
      (.eval description (lowered word.toList) (String.ofList (strip code.toList))) := by
  obtain ⟨blanks, trimmed, split, isBlanks, trimmedStops⟩ : ∃ blanks trimmed,
      code.toList = blanks ++ trimmed ∧ Consists isBlank blanks ∧ Stops isBlank trimmed :=
    ⟨_, _, takeWhile_dropWhile_iff.mp ⟨rfl, rfl⟩⟩
  have spells : Spells ['e', 'v', 'a', 'l'] ['e', 'v', 'a', 'l'] := by decide
  have oneBlank : Consists isBlank [' '] := by decide
  have gap : Consists isBlank (' ' :: blanks) := List.forall_mem_cons.mpr ⟨rfl, isBlanks⟩
  have codeStops : Stops isBlank (trimmed ++ ';' :: []) := by
    cases trimmed with
    | nil => exact stops_cons.mpr rfl
    | cons first later => exact stops_cons.mpr (stops_cons.mp trimmedStops)
  have unendedTrimmed : ';' ∉ trimmed := by
    intro member
    rw [split] at unended
    exact unended (List.mem_append_right blanks member)
  have written :
      ("eval \"" ++ description ++ "\" " ++ word ++ " ::= " ++ code ++ ";").toList =
        Item.render (.eval ['e', 'v', 'a', 'l'] [' '] description.toList [' '] word.toList [' ']
          (' ' :: blanks) trimmed) := by
    simp only [Item.render, renderQuotation, String.toList_append, List.append_assoc, split,
      List.cons_append]
    rfl
  refine readAs_of_item written ⟨spells, oneBlank, unquoted, oneBlank, isRun, oneBlank, gap,
    codeStops, unendedTrimmed⟩ (List.forall_mem_nil _) ?_ file
  rw [Item.operation?, String.ofList_toList, split, strip_append_of_blanks isBlanks]

private theorem readAs_counted (notTrace : lowered word.toList ≠ "trace") :
    ReadAs limit (word ++ "+") file (.inc (lowered word.toList) nextTarget) ∧
      ReadAs limit (word ++ "-") file
        (.dec (lowered word.toList) nextTarget nextTarget) := by
  have notMarker : ¬ Spells ['t', 'r', 'a', 'c', 'e'] word.toList :=
    mt (lowered_eq_trace_iff isRun).mpr notTrace
  have noTarget : arrow? target? [] = none := rfl
  have noArms : arrow? arms? [] = none := rfl
  constructor
  · have written : (word ++ "+").toList = Item.render (.inc word.toList none) :=
      String.toList_append
    exact readAs_of_item written ⟨isRun, notMarker, noTarget⟩ (List.forall_mem_nil _) rfl file
  · have written : (word ++ "-").toList = Item.render (.dec word.toList none) :=
      String.toList_append
    exact readAs_of_item written ⟨isRun, notMarker, noArms⟩ (List.forall_mem_nil _) rfl file

/-- The marker is read, and no item begins with a sign. -/
private theorem parse_counted_trace (marker : lowered word.toList = "trace") {sign : Char}
    (counts : sign = '+' ∨ sign = '-') :
    parse limit (word ++ String.ofList [sign]) file =
      .error { line := 1, remainder := String.ofList [sign], file } := by
  have spells := (lowered_eq_trace_iff isRun).mp marker
  have fit : Item.Fits (.trace word.toList) [sign] := by
    rcases counts with rfl | rfl
    · exact ⟨spells, stops_cons.mpr (by decide), stops_cons.mpr rfl⟩
    · exact ⟨spells, stops_cons.mpr (by decide), stops_cons.mpr rfl⟩
  have stuck : Item.read? [sign] = none := by
    rcases counts with rfl | rfl
    · decide
    · decide
  have scanned : scan (word ++ String.ofList [sign]).toList = ([.trace word.toList], [sign]) := by
    apply scan_eq_iff.mpr
    refine ⟨?_, ⟨fit, trivial⟩, stuck⟩
    rw [String.toList_append, String.toList_ofList, renderItems_cons, renderItems_nil,
      List.append_nil]
    rfl
  have oneLine : newlines (renderItems [.trace word.toList]) = 0 := by
    apply List.count_eq_zero.mpr
    intro member
    rw [renderItems_cons, renderItems_nil, List.append_nil] at member
    exact absurd (isRun.2 _ member) (by decide)
  rw [parse, scanned]
  simp only [oneLine]

end Instructions

/-! ## Expressions -/

namespace Expression

/-- At the end of the text a chain has no further operand. -/
private theorem chainOf_of_ended {Operator : Type} (operator? : Char → Option Operator)
    {operand : Nat → Cursor → Attempt Expression} {room reach : Nat} {cursor final : Cursor}
    {first : Expression} (read : operand room cursor = .read first final reach)
    (ended : final.text = []) (size : Nat) :
    ∃ furthest, chainOf operator? operand size room cursor = .read (first, []) final furthest := by
  have noMark : ∀ mark ∈ final.skip.text.head?, operator? mark = none := by
    have skipped : final.skip.text = [] := Cursor.skip_text ended (List.forall_mem_nil _) stops_nil
    rw [skipped]
    intro mark absent
    cases absent
  obtain ⟨furthest, none, -⟩ := laterOperands_of_no_operator
    (fun following => enter 2 room fun room => operand room following) size reach noMark
  refine ⟨furthest, ?_⟩
  rw [chainOf_eq, read]
  simp only [none, Attempt.map]

/-- A name that is the whole text is a register, and not a call. -/
theorem parse_identifier {word : String} (isIdentifier : IsIdentifier word.toList) :
    parse word = .ok (.register (lowered word.toList)) := by
  obtain ⟨first, later, same, starts⟩ := isIdentifier.exists_cons
  have words : Consists isWord (first :: later) := same ▸ isIdentifier.2
  have begins : startsPhrase first = true := by
    simp only [startsPhrase, starts, Bool.or_true]
  have start : Cursor.skip ⟨0, first :: later⟩ = ⟨0, first :: later⟩ :=
    Cursor.pass_eq rfl (List.forall_mem_nil _)
      (stops_cons.mpr (isWhiteSpace_of_startsPhrase begins))
  have taken : (first :: later).takeWhile isWord = first :: later :=
    List.takeWhile_eq_self_iff.mpr words
  have passed : Cursor.pass isWord ⟨0, first :: later⟩ = ⟨0 + (first :: later).length, []⟩ :=
    Cursor.pass_eq (List.append_nil _).symm words stops_nil
  have read (size : Nat) : operand size nestingLimit nestingLimit ⟨0, first :: later⟩ =
      .read (.register (lowered (first :: later))) ⟨0 + (first :: later).length, []⟩ 0 :=
    operand_of_uncalled starts taken passed stops_nil
  have factor (size : Nat) : ∃ reach,
      product (operand size nestingLimit) size nestingLimit ⟨0, first :: later⟩ =
        .read (.register (lowered (first :: later))) ⟨0 + (first :: later).length, []⟩ reach := by
    obtain ⟨reach, chain⟩ := chainOf_of_ended BinaryOperator.multiplicative? (read size) rfl size
    rw [product, chain]
    exact ⟨reach, rfl⟩
  obtain ⟨productReach, factored⟩ := factor (first :: later).length
  obtain ⟨reach, summed⟩ := chainOf_of_ended BinaryOperator.additive? factored rfl
    (first :: later).length
  simp only [parse, same, start, sum, summed]
  rfl

/-- A text that begins with no operand is refused at its first character. -/
theorem parse_of_other {text : String} {first : Char} {later : List Char}
    (spelled : text.toList = first :: later) (visible : isWhiteSpace first = false)
    (other : startsPhrase first = false) : parse text = .error (.unparsable 1) := by
  have start : Cursor.skip ⟨0, first :: later⟩ = ⟨0, first :: later⟩ :=
    Cursor.pass_eq rfl (List.forall_mem_nil _) (stops_cons.mpr visible)
  have stuck (size : Nat) : sum (operand size nestingLimit) size nestingLimit
      ⟨0, first :: later⟩ = .stuck 0 := by
    have missed : operand size nestingLimit nestingLimit ⟨0, first :: later⟩ = .stuck 0 :=
      operand_of_other other
    rw [sum, chainOf_eq, product, chainOf_eq, missed]
    rfl
  simp only [parse, spelled, start, stuck]

end Expression

/-! ## One register -/

/-- Initialisations and expressions store into the register that a word names, in lower case,
whatever the word; counting up and down does so too, unless the word is the trace marker, behind
which the sign is refused. Where an expression reads the word as a name, its value is that of the
same register, or zero if that is not recorded. -/
theorem word_names_register (limit : DigitLimit) (admitted : limit.admits 1 = true)
    {word : String} (isRun : IsRun isWord word.toList) (file : String) :
    let register := lowered word.toList
    ReadAs limit ("init " ++ word ++ " 0") file (.init register 0) ∧
      (∀ description code : String, '"' ∉ description.toList → ';' ∉ code.toList →
        ReadAs limit ("eval \"" ++ description ++ "\" " ++ word ++ " ::= " ++ code ++ ";") file
          (.eval description register (String.ofList (strip code.toList)))) ∧
      (register ≠ "trace" →
        ReadAs limit (word ++ "+") file (.inc register nextTarget) ∧
          ReadAs limit (word ++ "-") file (.dec register nextTarget nextTarget)) ∧
      (register = "trace" →
        parse limit (word ++ "+") file = .error { line := 1, remainder := "+", file } ∧
          parse limit (word ++ "-") file = .error { line := 1, remainder := "-", file }) ∧
      (Expression.IsIdentifier word.toList → ∀ registers : RegisterFile, registers.Natural →
        Expression.evaluate limit registers.value word =
          .ok ((registers.table.get? register).getD 0)) := by
  intro register
  refine ⟨readAs_init isRun file admitted, fun description code => readAs_eval isRun file,
    readAs_counted isRun file, ?_, ?_⟩
  · intro marker
    exact ⟨parse_counted_trace isRun file marker (.inl rfl),
      parse_counted_trace isRun file marker (.inr rfl)⟩
  · intro isIdentifier registers natural
    have value : ¬ registers.value register < 0 :=
      Int.not_lt.mpr (natural.value_nonneg register)
    rw [Expression.evaluate, Expression.parse_identifier isIdentifier, ok_bind, Expression.value,
      ok_bind, if_neg value]
    rfl

/-- A register whose name spells a keyword, and the marker in capitals. -/
theorem word_names_register_keyword :
    IsRun isWord "Eval".toList ∧ lowered "Eval".toList = "eval" ∧
      ReadAs .standard "init Eval 0" "" (.init "eval" 0) ∧
      ReadAs .standard "eval \"half\" Eval ::=  Eval / 2;" "" (.eval "half" "eval" "Eval / 2") ∧
      ReadAs .standard "Eval+" "" (.inc "eval" nextTarget) ∧
      Expression.evaluate .standard (RegisterFile.empty.write "eval" 7).value "Eval" = .ok 7 ∧
      IsRun isWord "TRACE".toList ∧ lowered "TRACE".toList = "trace" ∧
      parse .standard "TRACE-" "" = .error { line := 1, remainder := "-" } := by
  have isRun : IsRun isWord "Eval".toList := by decide
  have isIdentifier : Expression.IsIdentifier "Eval".toList := ⟨⟨'E', rfl, by decide⟩, isRun.2⟩
  have isMarker : IsRun isWord "TRACE".toList := by decide
  have name : lowered "Eval".toList = "eval" := by decide
  have marker : lowered "TRACE".toList = "trace" := by decide
  have natural : (RegisterFile.empty.write "eval" 7).Natural :=
    RegisterFile.Natural.empty.write "eval" (by decide)
  obtain ⟨initial, evaluated, counted, -, valued⟩ :=
    word_names_register .standard rfl isRun ""
  obtain ⟨-, -, -, refused, -⟩ := word_names_register .standard rfl isMarker ""
  rw [name] at initial evaluated counted valued
  refine ⟨isRun, name, initial, evaluated "half" " Eval / 2" (by decide) (by decide),
    (counted (by decide)).1, valued isIdentifier _ natural, isMarker, marker, (refused marker).2⟩

/-! ## Words that name no register everywhere -/

/-- Every notation for a register reads the word as the one in lower case: the four instructions
that name it, and the expression that consists of it. -/
structure NamesOneRegister (limit : DigitLimit) (word : String) : Prop where
  initialises : ∀ file, ReadAs limit ("init " ++ word ++ " 0") file (.init (lowered word.toList) 0)
  stores : ∀ file description code : String, '"' ∉ description.toList → ';' ∉ code.toList →
    ReadAs limit ("eval \"" ++ description ++ "\" " ++ word ++ " ::= " ++ code ++ ";") file
      (.eval description (lowered word.toList) (String.ofList (strip code.toList)))
  increments : ∀ file, ReadAs limit (word ++ "+") file (.inc (lowered word.toList) nextTarget)
  decrements : ∀ file,
    ReadAs limit (word ++ "-") file (.dec (lowered word.toList) nextTarget nextTarget)
  valued : ∀ registers : RegisterFile, registers.Natural →
    Expression.evaluate limit registers.value word =
      .ok ((registers.table.get? (lowered word.toList)).getD 0)

private theorem not_namesOneRegister_of_trace {limit : DigitLimit} {word : String}
    (isRun : IsRun isWord word.toList) (marker : lowered word.toList = "trace") :
    ¬ NamesOneRegister limit word := by
  intro names
  have refused : parse limit (word ++ "+") "" = .error { line := 1, remainder := "+" } :=
    parse_counted_trace isRun "" marker (.inl rfl)
  have increments := names.increments ""
  rw [ReadAs, refused] at increments
  cases increments

/-- The first character of the word begins no operand of an expression. -/
private theorem not_namesOneRegister_of_other {limit : DigitLimit} {word : String} {first : Char}
    {later : List Char} (isRun : IsRun isWord word.toList) (spelled : word.toList = first :: later)
    (other : Expression.startsPhrase first = false) : ¬ NamesOneRegister limit word := by
  intro names
  have letter : isWord first = true := isRun.2 first (spelled ▸ List.mem_cons_self)
  have refused := Expression.parse_of_other spelled (isWhiteSpace_of_isWord letter) other
  have valued := names.valued .empty RegisterFile.Natural.empty
  rw [Expression.evaluate, refused] at valued
  cases valued

/-- No spelling of the trace marker names a register everywhere, as it cannot be counted; nor does
a word whose first character begins no operand, as it is no expression. The marker itself is a
word of the first kind, and a letter outside ASCII one of the second. -/
theorem word_without_register :
    (∀ (limit : DigitLimit) (word : String), IsRun isWord word.toList →
      lowered word.toList = "trace" → ¬ NamesOneRegister limit word) ∧
    (∀ (limit : DigitLimit) (word : String) (first : Char) (later : List Char),
      IsRun isWord word.toList → word.toList = first :: later →
        Expression.startsPhrase first = false → ¬ NamesOneRegister limit word) ∧
    (IsRun isWord "trace".toList ∧ ¬ NamesOneRegister .standard "trace") ∧
    IsRun isWord "é".toList ∧ ¬ NamesOneRegister .standard "é" := by
  have marker : IsRun isWord "trace".toList := by decide
  have accented : IsRun isWord "é".toList := by decide
  exact ⟨fun _ _ => not_namesOneRegister_of_trace,
    fun _ _ _ _ => not_namesOneRegister_of_other,
    ⟨marker, not_namesOneRegister_of_trace marker (by decide)⟩,
    accented, not_namesOneRegister_of_other accented rfl (by decide)⟩

end CounterMachine
