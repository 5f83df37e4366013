import CounterMachine.Proofs.Listing.RoundTrip
import CounterMachine.Proofs.Numbering.Programs

/-!
Contract: a program keeps its number through its listing.

Owns: that what a number decodes to can be listed, and on lines that nothing but line feeds ends,
and that a listing compiles to a program of the same number.

Does not own: the numbers of programs, and the reading of listings.

## Why the number is kept

A listing is read with every operand as it is written, except negative indices, which are read
as offsets. A program with a number has natural operands only.
-/

set_option autoImplicit false

namespace CounterMachine

open Text Source

/-! ## Listings of numbers -/

theorem isName_numberedRegister (index : Nat) : IsName (numberedRegister index) :=
  isName_of_letter_digits (toList_numberedRegister index) (by decide)
    (isSmall_of_ascii (by decide) rfl)

theorem numberedRegister_ne_trace (index : Nat) : numberedRegister index ≠ "trace" := by
  intro same
  have letters := congrArg String.toList same
  rw [toList_numberedRegister] at letters
  cases letters

theorem NumberedOperation.listable_operation (numbered : NumberedOperation) :
    numbered.operation.Listable := by
  cases numbered with
  | halt => decide
  | inc register next =>
      exact ⟨isName_numberedRegister register, numberedRegister_ne_trace register⟩
  | dec register onPositive onZero =>
      exact ⟨isName_numberedRegister register, numberedRegister_ne_trace register⟩

/-! ## Line ends -/

private theorem noReturn_decimal (value : Nat) : '\r' ∉ (decimal value).toList := by
  rw [toList_decimal_natCast]
  intro member
  exact absurd (isDigit_of_mem_decimalDigits member) (by decide)

private theorem noReturn_numberedRegister (index : Nat) :
    '\r' ∉ (numberedRegister index).toList := by
  rw [toList_numberedRegister, List.mem_cons, not_or]
  refine ⟨by decide, ?_⟩
  intro member
  exact absurd (isDigit_of_mem_decimalDigits member) (by decide)

private theorem noReturn_operation (numbered : NumberedOperation) :
    '\r' ∉ numbered.operation.text.toList := by
  cases numbered with
  | halt => decide
  | inc register next =>
      show '\r' ∉ (numberedRegister register ++ "+ -> " ++ decimal next).toList
      simp only [String.toList_append, List.mem_append, noReturn_numberedRegister,
        noReturn_decimal, or_false, false_or]
      decide
  | dec register onPositive onZero =>
      show '\r' ∉ (numberedRegister register ++ "- -> " ++ decimal onPositive ++ ", " ++
        decimal onZero).toList
      simp only [String.toList_append, List.mem_append, noReturn_numberedRegister,
        noReturn_decimal, or_false, false_or]
      decide

/-- A listing ends its lines with line feeds. -/
private theorem noReturn_textFrom {program : Program}
    (plain : ∀ body ∈ program, '\r' ∉ body.operation.text.toList) (index : Nat) :
    '\r' ∉ (Program.textFrom index program).toList := by
  induction program generalizing index with
  | nil => exact List.not_mem_nil
  | cons body later inductionHypothesis =>
      have first := plain body List.mem_cons_self
      have rest := inductionHypothesis
        (fun other member => plain other (List.mem_cons_of_mem body member)) (index + 1)
      simp only [Program.textFrom, listingLine, String.toList_append, List.mem_append, first, rest,
        noReturn_decimal, or_false]
      decide

/-- What a number decodes to is listed in a readable form. -/
theorem listable_of_decode {number exponent : Nat} {program : Program}
    (decoded : decode .unlimited number exponent = .ok program) :
    (∀ body ∈ program, body.operation.Listable) ∧ '\r' ∉ program.text.toList := by
  rw [decode_natCast, Except.ok.injEq] at decoded
  have operations : ∀ body ∈ program, ∃ numbered : NumberedOperation,
      body.operation = numbered.operation := by
    rw [← decoded]
    intro body member
    obtain ⟨index, inside, rfl⟩ := List.mem_mapIdx.mp member
    exact ⟨_, rfl⟩
  constructor
  · intro body member
    obtain ⟨numbered, same⟩ := operations body member
    rw [same]
    exact numbered.listable_operation
  · apply noReturn_textFrom
    intro body member
    obtain ⟨numbered, same⟩ := operations body member
    rw [same]
    exact noReturn_operation numbered

/-- A decoded program has the number that it was decoded from. -/
theorem encode_of_decode {number exponent : Nat} {program : Program}
    (decoded : decode .unlimited number exponent = .ok program) :
    program.encode .unlimited = .ok (number * 2 ^ exponent) := by
  rw [decode_natCast, Except.ok.injEq] at decoded
  rw [← decoded, Program.encode_eq_ok_iff]
  exact ⟨_, numberedAs_mapIdx _ _ fun _ _ => rfl, encodeList_map_code_numberedsOf _⟩

/-! ## Numbers of listed programs -/

private theorem reread_natCast (index next : Nat) : reread index next = next :=
  reread_eq_self_iff.mpr fun _ => Int.natCast_nonneg next

private theorem Operation.NumberedAs.map_reread {operation : Operation Int}
    {numbered : NumberedOperation} (agrees : operation.NumberedAs numbered) (index : Nat) :
    (operation.map (reread index)).NumberedAs numbered := by
  cases agrees with
  | halt reason => exact .halt reason
  | inc next named =>
      rw [Operation.map, reread_natCast]
      exact .inc next named
  | dec onPositive onZero named =>
      rw [Operation.map, reread_natCast, reread_natCast]
      exact .dec onPositive onZero named

private theorem Program.NumberedAs.rereadFrom {program : Program}
    {numbereds : List NumberedOperation} (agrees : program.NumberedAs numbereds)
    (index line : Nat) : (program.rereadFrom index line).NumberedAs numbereds := by
  induction agrees generalizing index line with
  | nil => exact .nil
  | cons first _ inductionHypothesis =>
      exact .cons (first.map_reread index) (inductionHypothesis _ _)

/-- The listing of a program that has a number compiles, and to a program of that number. -/
theorem encode_of_compile_text {program : Program}
    (listable : ∀ body ∈ program, body.operation.Listable) {number : Nat}
    (numbered : program.encode .unlimited = .ok number) (file : String) :
    ∃ again, compile .unlimited program.text file = .ok again ∧
      again.encode .unlimited = .ok number := by
  obtain ⟨numbereds, agrees, same⟩ := Program.encode_eq_ok_iff.mp numbered
  exact ⟨_, compile_text listable file,
    Program.encode_eq_ok_iff.mpr ⟨numbereds, agrees.rereadFrom 0 1, same⟩⟩

end CounterMachine
