import CounterMachine.Proofs.Linking
import CounterMachine.Proofs.Source.Names
import CounterMachine.Proofs.Source.Scanning
import Mathlib.Data.List.DropRight

/-!
Contract: the operations whose listing can be read.

Owns: the conditions on names, quotations and code under which the text of an operation reads
back, and that every operation of a compiled program meets them.

Does not own: the reading of a listing.
-/

set_option autoImplicit false

namespace CounterMachine

open Text Source

/-- The parts of the operation can be written so that they are read as they are. Jump
operands are of no concern. -/
def Operation.Listable {Jump : Type} : Operation Jump → Prop
  | .init register value => IsName register ∧ 0 ≤ value
  | .inc register _ => IsName register ∧ register ≠ "trace"
  | .dec register _ _ => IsName register ∧ register ≠ "trace"
  | .halt reason => '"' ∉ reason.toList
  | .eval description register code =>
      '"' ∉ description.toList ∧ IsName register ∧ ';' ∉ code.toList ∧
        strip code.toList = code.toList

instance {Jump : Type} : (operation : Operation Jump) → Decidable operation.Listable
  | .init register value => inferInstanceAs (Decidable (IsName register ∧ 0 ≤ value))
  | .inc register _ | .dec register _ _ =>
      inferInstanceAs (Decidable (IsName register ∧ register ≠ "trace"))
  | .halt reason => inferInstanceAs (Decidable ('"' ∉ reason.toList))
  | .eval description register code =>
      inferInstanceAs (Decidable ('"' ∉ description.toList ∧ IsName register ∧
        ';' ∉ code.toList ∧ strip code.toList = code.toList))

theorem Operation.MapsTo.listable_iff {Jump Other : Type} {related : Jump → Other → Prop}
    {operation : Operation Jump} {result : Operation Other}
    (maps : operation.MapsTo related result) : operation.Listable ↔ result.Listable := by
  cases maps with
  | init register value => exact Iff.rfl
  | inc register nextRelated => exact Iff.rfl
  | dec register positiveRelated zeroRelated => exact Iff.rfl
  | halt reason => exact Iff.rfl
  | eval description register code => exact Iff.rfl

/-! ## Stripped text -/

/-- Blanks are stripped. -/
theorem Source.isSeparator_of_isBlank {character : Char} (blank : isBlank character = true) :
    isSeparator character = true := by
  rcases isBlank_iff.mp blank with rfl | rfl
  · decide
  · decide

namespace Text

theorem strip_eq_rdropWhile (text : List Char) :
    strip text = (text.dropWhile isSeparator).rdropWhile isSeparator :=
  rfl

theorem mem_of_mem_strip {text : List Char} {character : Char} (member : character ∈ strip text) :
    character ∈ text := by
  have isFront : strip text <+: text.dropWhile isSeparator :=
    List.rdropWhile_prefix isSeparator _
  exact (List.dropWhile_suffix isSeparator).subset (isFront.subset member)

theorem stops_strip (text : List Char) : Stops isSeparator (strip text) := by
  apply (stops_dropWhile text).of_front
  exact List.rdropWhile_prefix isSeparator _

@[simp]
theorem strip_strip (text : List Char) : strip (strip text) = strip text := by
  rw [strip_eq_rdropWhile (strip text), dropWhile_of_stops (stops_strip text),
    strip_eq_rdropWhile text]
  exact List.rdropWhile_idempotent _ _

end Text

/-! ## Compiled programs -/

/-- The reason of a halt that is given none. -/
private theorem unquoted_default : '"' ∉ "Halt".toList := by
  decide

/-- By cases on the item: its parts are words, quotations and code that were read. -/
theorem Source.Item.Fits.listable {item : Item} {rest : List Char} {operation : Operation Target}
    (fit : item.Fits rest) (found : item.operation? = some operation) : operation.Listable := by
  have counted {register : List Char} (isRun : IsRun isWord register)
      (notTrace : ¬ Spells ['t', 'r', 'a', 'c', 'e'] register) :
      IsName (lowered register) ∧ lowered register ≠ "trace" := by
    refine ⟨isName_lowered isRun, ?_⟩
    intro same
    exact notTrace ((lowered_eq_trace_iff isRun).mp same)
  cases item with
  | newline => cases found
  | comment body => cases found
  | space body => cases found
  | label name => cases found
  | trace keyword => cases found
  | init keyword beforeRegister register beforeValue digits =>
      rw [← Option.some.inj found]
      exact ⟨isName_lowered fit.2.2.1, Int.natCast_nonneg _⟩
  | inc register jump =>
      cases jump with
      | none =>
          rw [← Option.some.inj found]
          exact counted fit.1 fit.2.1
      | some arrow =>
          rw [← Option.some.inj found]
          exact counted fit.1 fit.2.1
  | dec register jump =>
      cases jump with
      | none =>
          rw [← Option.some.inj found]
          exact counted fit.1 fit.2.1
      | some arrow =>
          rw [← Option.some.inj found]
          exact counted fit.1 fit.2.1
  | halt keyword reason =>
      cases reason with
      | none =>
          rw [← Option.some.inj found]
          exact unquoted_default
      | some pair =>
          rw [← Option.some.inj found]
          rw [Operation.Listable, String.toList_ofList]
          exact fit.2.2
  | eval keyword beforeDescription description beforeRegister register beforeSign afterSign
      code =>
      obtain ⟨-, -, unquoted, -, isRun, -, -, -, unended⟩ := fit
      rw [← Option.some.inj found]
      simp only [Operation.Listable, String.toList_ofList]
      refine ⟨unquoted, isName_lowered isRun, ?_, strip_strip code⟩
      intro member
      exact unended (mem_of_mem_strip member)

/-- Every operation of a compiled program can be listed. -/
theorem listable_of_compile {limit : DigitLimit} {source file : String} {program : Program}
    (compiled : compile limit source file = .ok program) :
    ∀ body ∈ program, body.operation.Listable := by
  intro body member
  obtain ⟨tokens, original, parsed, inTokens, -, _, _, _, _, maps⟩ :=
    exists_token_of_mem_compile compiled member
  obtain ⟨item, ⟨behind, fit⟩, -, standsFor⟩ := exists_item_of_mem_parse parsed inTokens
  exact maps.listable_iff.mp (fit.listable standsFor)

end CounterMachine
