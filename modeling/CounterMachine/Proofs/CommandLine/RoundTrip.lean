import CounterMachine.Proofs.CommandLine.Reports
import CounterMachine.Proofs.CommandLine.Requests
import CounterMachine.Proofs.Numbering.Listed

/-!
Contract: what decoding prints is what encoding reads.

Owns: the call that prints the program of a number, the call that prints the number of a program
given as standard input, and that the second undoes the first.

Does not own: explanations, and programs in files.
-/

set_option autoImplicit false

namespace CounterMachine.CommandLine

open Text

/-- A listing whose lines nothing but line feeds ends is read from standard input as it is. -/
private theorem readSource_standardInput (directory : Directory) {text : String}
    (plain : '\r' ∉ text.toList) : readSource directory text "-" = .ok text := by
  rw [readSource, if_pos rfl, unifyLineEnds_eq_self plain, String.ofList_toList]

/-- A number and an exponent are answered with the listing of their program. -/
theorem invoke_decodeWords (directory : Directory) (input : String) {number exponent : Nat}
    {program : Program} (decoded : decode .unlimited number exponent = .ok program) :
    invoke directory (CommandName.decode.text :: decodeWords number exponent) input =
      (.report .success program.text "", directory) := by
  simp only [invoke, ofArguments_decodeWords, Command.perform, Command.source?, Command.report,
    decodeReport, settledDecodeReport, Bool.false_eq_true, if_false, Derivation.silent, decoded]
  rfl

/-- A text without carriage returns is answered with the number of the program it compiles to. -/
theorem invoke_encode_standardInput (directory : Directory) {text : String} {program : Program}
    {number : Nat} (plain : '\r' ∉ text.toList)
    (compiled : compile .unlimited text "-" = .ok program)
    (numbered : program.encode .unlimited = .ok number) :
    invoke directory [CommandName.encode.text, "-"] text =
      (.report .success (decimal number ++ "\n") "", directory) := by
  obtain ⟨messages, hidden, performed⟩ :=
    perform_encode_of_ok (readSource_standardInput directory plain) compiled false .standardOutput
  simp only [invoke, ofArguments_encode_standardInput, performed,
    Report.standardError_after_of_hidden _ _ hidden]
  simp only [encodeReport, Bool.false_eq_true, if_false, Derivation.silent, numbered]
  rfl

/-- What is printed for a number and an exponent is, as standard input, answered with the number
times that power of two. Both calls return zero. -/
theorem invoke_encode_of_decode (number exponent : Nat) :
    ∃ listing : String,
      (∀ directory input,
        let call := invoke directory ["decode", decimal number, "-s", decimal exponent] input
        call = (.report .success listing "", directory) ∧ call.1.exit.code = some 0) ∧
      ∀ directory,
        let call := invoke directory ["encode", "-"] listing
        call = (.report .success (decimal (number * 2 ^ exponent : Nat) ++ "\n") "", directory) ∧
          call.1.exit.code = some 0 := by
  have decoded := decode_natCast number exponent
  obtain ⟨listable, plain⟩ := listable_of_decode decoded
  obtain ⟨again, compiled, numbered⟩ :=
    encode_of_compile_text listable (encode_of_decode decoded) "-"
  have listed (directory : Directory) (input : String) :=
    invoke_decodeWords directory input decoded
  have encoded (directory : Directory) :=
    invoke_encode_standardInput directory plain compiled numbered
  exact ⟨_,
    fun directory input =>
      ⟨listed directory input, congrArg (·.1.exit.code) (listed directory input)⟩,
    fun directory => ⟨encoded directory, congrArg (·.1.exit.code) (encoded directory)⟩⟩

end CounterMachine.CommandLine
