import CounterMachine.Listing
import CounterMachine.Proofs.Listing.Listable

/-!
Contract: the items of a listing.

Owns: the items that the lines of a listing consist of, that their text is the listing, and
that they fit one behind the other, whatever operations are listed.

Does not own: what the items are linked to.

## Why every operation fits

A line ends with a line end, which no class of characters contains and with which no missing
part could start. Every part of an operation is written, so that nothing can be missing.
-/

set_option autoImplicit false

namespace CounterMachine

open Text Source

/-! ## Operands -/

/-- An index is written as a word, and a negative number looks like an offset. -/
def writtenTarget : Int → WrittenTarget
  | .ofNat index => .word (decimalDigits index)
  | .negSucc below => .offset true (decimalDigits (below + 1))

theorem isWritten_writtenTarget (target : Int) : (writtenTarget target).IsWritten := by
  cases target with
  | ofNat index => exact isRun_isWord_of_digits (isRun_decimalDigits index)
  | negSucc below => exact isRun_decimalDigits (below + 1)

theorem fits_writtenTarget (target : Int) (rest : List Char) :
    (writtenTarget target).Fits ('\n' :: rest) := by
  refine ⟨isWritten_writtenTarget target, ?_⟩
  cases target with
  | ofNat index =>
      have newline : isWord '\n' = false := by decide
      exact stops_cons.mpr newline
  | negSucc below => exact stops_cons.mpr rfl

theorem render_writtenTarget (target : Int) :
    (writtenTarget target).render = (decimal target).toList := by
  cases target with
  | ofNat index => exact String.toList_ofList.symm
  | negSucc below => exact String.toList_ofList.symm

/-! ## Operations -/

/-- The item in the text of an operation. The value of an initialisation is written without
its sign. -/
def Operation.item : Operation Int → Item
  | .init register value =>
      .init ['i', 'n', 'i', 't'] [' '] register.toList [' '] (decimalDigits value.toNat)
  | .inc register next => .inc register.toList (some ⟨[' '], [' '], writtenTarget next⟩)
  | .dec register onPositive onZero =>
      .dec register.toList
        (some ⟨[' '], [' '], .both (writtenTarget onPositive) [] [' '] (writtenTarget onZero)⟩)
  | .halt reason => .halt ['h', 'a', 'l', 't'] (some ([' '], reason.toList))
  | .eval description register code =>
      .eval ['e', 'v', 'a', 'l'] [' '] description.toList [' '] register.toList [' '] [' ']
        code.toList

theorem Operation.render_item {operation : Operation Int} (listable : operation.Listable) :
    operation.item.render = operation.text.toList := by
  cases operation with
  | init register value =>
      have numeral : decimalDigits value.toNat = (decimal value).toList := by
        rw [← toList_decimal_natCast, Int.toNat_of_nonneg listable.2]
      simp only [item, Item.render, text, String.toList_append, numeral]
      rfl
  | inc register next =>
      simp only [item, Item.render, Arrow.render, text, String.toList_append,
        render_writtenTarget, List.append_assoc]
      rfl
  | dec register onPositive onZero =>
      simp only [item, Item.render, Arrow.render, WrittenArms.render, text,
        String.toList_append, render_writtenTarget, List.append_assoc]
      rfl
  | halt reason =>
      simp only [item, Item.render, renderQuotation, text, String.toList_append]
      rfl
  | eval description register code =>
      simp only [item, Item.render, renderQuotation, text, String.toList_append,
        List.append_assoc, List.cons_append, List.nil_append]
      rfl

private theorem oneBlank : IsRun isBlank [' '] := by
  decide

/-- Names that are not the trace marker do not spell it either. -/
private theorem not_spells_of_isName {register : String} (isName : IsName register)
    (notTrace : register ≠ "trace") : ¬ Spells ['t', 'r', 'a', 'c', 'e'] register.toList := by
  intro spells
  have same := (lowered_eq_trace_iff isName.1).mpr spells
  rw [lowered_of_isName isName] at same
  exact notTrace same

/-- By cases on the operation, each part of the text being complete where it ends. -/
theorem Operation.fits_item {operation : Operation Int} (listable : operation.Listable)
    (rest : List Char) : operation.item.Fits ('\n' :: rest) := by
  cases operation with
  | init register value =>
      have spells : Spells ['i', 'n', 'i', 't'] ['i', 'n', 'i', 't'] := by decide
      exact ⟨spells, oneBlank, listable.1.1, oneBlank, isRun_decimalDigits _, stops_cons.mpr rfl⟩
  | inc register next =>
      exact ⟨listable.1.1, not_spells_of_isName listable.1 listable.2, oneBlank.2, oneBlank.2,
        fits_writtenTarget next rest⟩
  | dec register onPositive onZero =>
      exact ⟨listable.1.1, not_spells_of_isName listable.1 listable.2, oneBlank.2, oneBlank.2,
        isWritten_writtenTarget onPositive, List.forall_mem_nil _, oneBlank.2,
        fits_writtenTarget onZero rest⟩
  | halt reason =>
      have spells : Spells ['h', 'a', 'l', 't'] ['h', 'a', 'l', 't'] := by decide
      exact ⟨spells, oneBlank, listable⟩
  | eval description register code =>
      obtain ⟨unquoted, isName, unended, stripped⟩ := listable
      have spells : Spells ['e', 'v', 'a', 'l'] ['e', 'v', 'a', 'l'] := by decide
      have codeStops : Stops isBlank (code.toList ++ ';' :: '\n' :: rest) := by
        have separated := stops_strip code.toList
        rw [stripped] at separated
        cases letters : code.toList with
        | nil => exact stops_cons.mpr rfl
        | cons first later =>
            rw [letters, stops_cons] at separated
            refine stops_cons.mpr (Bool.eq_false_iff.mpr fun blank => ?_)
            rw [isSeparator_of_isBlank blank] at separated
            cases separated
      exact ⟨spells, oneBlank.2, unquoted, oneBlank.2, isName.1, oneBlank.2, oneBlank.2,
        codeStops, unended⟩

/-! ## Lines -/

/-- Label of the instruction at an index. -/
def lineLabel (index : Nat) : List Char :=
  'l' :: decimalDigits index

/-- Items of the line of an operation. -/
def lineItems (index : Nat) (operation : Operation Int) : List Item :=
  [.label (lineLabel index), .space [' '], operation.item, .newline]

/-- Items of a listing from an index on. -/
def Program.itemsFrom : Nat → Program → List Item
  | _, [] => []
  | index, body :: later =>
      lineItems index body.operation ++ Program.itemsFrom (index + 1) later

theorem isName_lineLabel (index : Nat) : IsName (String.ofList (lineLabel index)) :=
  isName_of_letter_digits String.toList_ofList (by decide) (isSmall_of_ascii (by decide) rfl)

theorem isRun_lineLabel (index : Nat) : IsRun isWord (lineLabel index) := by
  have isRun := (isName_lineLabel index).1
  rwa [String.toList_ofList] at isRun

private theorem toList_listingLine (index : Nat) (text : String) :
    (listingLine index text).toList = lineLabel index ++ ':' :: ' ' :: (text.toList ++ ['\n']) := by
  simp only [listingLine, lineLabel, String.toList_append, toList_decimal_natCast,
    List.append_assoc]
  rfl

private theorem renderItems_lineItems {operation : Operation Int}
    (listable : operation.Listable) (index : Nat) (later : List Item) :
    renderItems (lineItems index operation ++ later) =
      (listingLine index operation.text).toList ++ renderItems later := by
  have label : Item.render (.label (lineLabel index)) = lineLabel index ++ [':'] := rfl
  have space : Item.render (.space [' ']) = [' '] := rfl
  have newline : Item.render .newline = ['\n'] := rfl
  simp only [lineItems, List.cons_append, List.nil_append, renderItems_cons, label, space,
    newline, Operation.render_item listable, toList_listingLine, List.append_assoc]

/-- The items of a listing are its text. -/
theorem renderItems_itemsFrom (program : Program)
    (listable : ∀ body ∈ program, body.operation.Listable) (index : Nat) :
    renderItems (program.itemsFrom index) = (program.textFrom index).toList := by
  induction program generalizing index with
  | nil => rfl
  | cons body later inductionHypothesis =>
      have rest := inductionHypothesis
        (fun other member => listable other (List.mem_cons_of_mem body member)) (index + 1)
      rw [Program.itemsFrom, renderItems_lineItems (listable body List.mem_cons_self), rest,
        Program.textFrom, String.toList_append]

/-- What is listed starts with a word. -/
private theorem Operation.stops_space {operation : Operation Int}
    (listable : operation.Listable) (rest : List Char) :
    Stops isSpace (operation.item.render ++ rest) := by
  cases operation with
  | init register value => exact stops_cons.mpr rfl
  | inc register next =>
      simp only [item, Item.render, List.append_assoc]
      exact listable.1.1.stops_append isSpace_of_isWord _
  | dec register onPositive onZero =>
      simp only [item, Item.render, List.append_assoc]
      exact listable.1.1.stops_append isSpace_of_isWord _
  | halt reason => exact stops_cons.mpr rfl
  | eval description register code => exact stops_cons.mpr rfl

/-- By induction on the program, the items of a line fitting before every later line. -/
theorem itemsFit_itemsFrom (program : Program)
    (listable : ∀ body ∈ program, body.operation.Listable) (index : Nat) :
    ItemsFit (program.itemsFrom index) [] := by
  induction program generalizing index with
  | nil => trivial
  | cons body later inductionHypothesis =>
      have ownListable := listable body List.mem_cons_self
      have rest := inductionHypothesis
        (fun other member => listable other (List.mem_cons_of_mem body member)) (index + 1)
      have oneSpace : IsRun isSpace [' '] := by decide
      have spaceFits : Item.Fits (.space [' ']) (renderItems
          (body.operation.item :: .newline :: Program.itemsFrom (index + 1) later) ++ []) := by
        refine ⟨oneSpace, ?_⟩
        rw [renderItems_cons, List.append_assoc]
        exact Operation.stops_space ownListable _
      have operationFits : body.operation.item.Fits (renderItems
          (.newline :: Program.itemsFrom (index + 1) later) ++ []) :=
        Operation.fits_item ownListable _
      exact ⟨isRun_lineLabel index, spaceFits, operationFits, trivial, rest⟩

end CounterMachine
