import CounterMachine.Proofs.Linking.CaseFolding
import CounterMachine.Proofs.Machine.CaseFolding

/-!
Contract: the case of ASCII letters does not matter, from the source to the result.

Owns: the theorem that puts parsing, linking and running together.

Does not own: the steps of that way, each of which has a module of its own.
-/

set_option autoImplicit false

namespace CounterMachine

open Text

/-- Tokens that differ in the case of the texts that they quote are refused for one error, or linked
to programs that differ in no more than that. -/
private theorem link_alike {limit : DigitLimit} {tokens otherTokens : List (Token Target)}
    (same : tokens.map Token.foldCase = otherTokens.map Token.foldCase) :
    (∃ error, link limit tokens = .error error ∧ link limit otherTokens = .error error) ∨
      ∃ program other, link limit tokens = .ok program ∧ link limit otherTokens = .ok other ∧
        program.map Instruction.foldCase = other.map Instruction.foldCase := by
  have linked : converted (List.map Instruction.foldCase) id (link limit tokens) =
      converted (List.map Instruction.foldCase) id (link limit otherTokens) := by
    rw [converted, ← link_foldCase, same, link_foldCase, converted]
  rcases converted_eq_iff.mp linked with
    ⟨program, other, ready, otherReady, alike⟩ | ⟨error, _, refused, otherRefused, rfl⟩
  · exact .inr ⟨program, other, ready, otherReady, alike⟩
  · exact .inl ⟨error, refused, otherRefused⟩

/-- Two sources that differ in the case of ASCII letters are both refused, at the same line, or
both parsed to tokens that differ only in the texts that they quote. These tokens are refused for
one undefined, dangling or overlong operand, or linked to programs whose runs come to the same end
under all settings and arguments: with the same registers, outcome, steps and place, or with one
code at one instruction. What is seen of these runs differs in case only. -/
theorem letterCase_insensitive (limit : DigitLimit) {source other : String}
    (sameLetters : source.toLower = other.toLower) (file : String) :
    (∃ error otherError, parse limit source file = .error error ∧
      parse limit other file = .error otherError ∧ error.foldCase = otherError.foldCase) ∨
    ∃ tokens otherTokens, parse limit source file = .ok tokens ∧
      parse limit other file = .ok otherTokens ∧
      tokens.map Token.foldCase = otherTokens.map Token.foldCase ∧
      ((∃ error, link limit tokens = .error error ∧ link limit otherTokens = .error error) ∨
        ∃ program otherProgram, link limit tokens = .ok program ∧
          link limit otherTokens = .ok otherProgram ∧
          program.map Instruction.foldCase = otherProgram.map Instruction.foldCase ∧
          ∀ (settings : Settings) (arguments : List Int),
            let run := program.run limit settings arguments
            let otherRun := otherProgram.run limit settings arguments
            run.foldCase = otherRun.foldCase ∧
              (SameEnd run.result otherRun.result ∨
                ∃ cause, run.result = .error (.violation cause) ∧
                  otherRun.result = .error (.violation cause))) := by
  have parsed : foldedTokens (parse limit source file) = foldedTokens (parse limit other file) := by
    rw [← parse_toLower, sameLetters, parse_toLower]
  rcases converted_eq_iff.mp parsed with
    ⟨tokens, otherTokens, read, otherRead, alike⟩ | ⟨error, otherError, failed, otherFailed, alike⟩
  · refine .inr ⟨tokens, otherTokens, read, otherRead, alike, ?_⟩
    rcases link_alike alike with
      refused | ⟨program, otherProgram, linked, otherLinked, programsAlike⟩
    · exact .inl refused
    · refine .inr ⟨program, otherProgram, linked, otherLinked, programsAlike, ?_⟩
      intro settings arguments run otherRun
      have runs := Program.run_alikeInCase programsAlike limit settings arguments
      exact ⟨runs, SameEnd.of_foldedResult (congrArg Run.result runs)⟩
  · exact .inl ⟨error, otherError, failed, otherFailed, alike⟩

private theorem link_of_compile {limit : DigitLimit} {source file : String} {program : Program}
    {tokens : List (Token Target)} (read : parse limit source file = .ok tokens)
    (compiled : compile limit source file = .ok program) : link limit tokens = .ok program := by
  rw [compile, read] at compiled
  exact mapError_eq_ok.mp compiled

/-- Counts down and takes a maximum; the texts that the instructions quote are left open. -/
def countdownMaximum (counting code evaluating halting : String) : Program :=
  [⟨.dec "r0" 0 1, counting, 1, false, some "a"⟩,
    ⟨.eval "" "r1" code, evaluating, 2, false, none⟩, ⟨.halt "Halt", halting, 3, false, none⟩]

/-- Labels, registers, keywords and functions in capitals. -/
theorem letterCase_insensitive_capitals :
    let source := "a: r0- -> a\neval \"\" r1 ::= max(r0, 7);\nhalt"
    let other := "A: R0- -> a\nEval \"\" R1 ::= MAX(r0, 7);\nHALT"
    let program := countdownMaximum "r0- -> a" "max(r0, 7)" "eval \"\" r1 ::= max(r0, 7);" "halt"
    let otherProgram :=
      countdownMaximum "R0- -> a" "MAX(r0, 7)" "Eval \"\" R1 ::= MAX(r0, 7);" "HALT"
    source.toLower = other.toLower ∧ compile .standard source = .ok program ∧
      compile .standard other = .ok otherProgram ∧
      SameEnd (program.run .standard {} [2]).result (otherProgram.run .standard {} [2]).result ∧
      (otherProgram.run .standard {} [2]).result =
        .ok ⟨⟨⟨[("r0", 0), ("r1", 7)], by decide⟩⟩, .halted "Halt", 5, 2⟩ := by
  intro source other program otherProgram
  have sameLetters : source.toLower = other.toLower := by
    rw [← String.toList_inj, toList_toLower, toList_toLower]
    decide
  have compiled : compile .standard source = .ok program := by decide
  have otherCompiled : compile .standard other = .ok otherProgram := by decide
  have returned : (otherProgram.run .standard {} [2]).result =
      .ok ⟨⟨⟨[("r0", 0), ("r1", 7)], by decide⟩⟩, .halted "Halt", 5, 2⟩ := rfl
  refine ⟨sameLetters, compiled, otherCompiled, ?_, returned⟩
  rcases letterCase_insensitive .standard sameLetters "" with
    ⟨error, otherError, failed, -⟩ | ⟨tokens, otherTokens, read, otherRead, -, outcome⟩
  · rw [compile, failed] at compiled
    cases compiled
  · have linked := link_of_compile read compiled
    have otherLinked := link_of_compile otherRead otherCompiled
    rcases outcome with ⟨error, refused, -⟩ | ⟨_, _, ready, otherReady, -, runs⟩
    · cases linked.symm.trans refused
    · cases linked.symm.trans ready
      cases otherLinked.symm.trans otherReady
      rcases (runs {} [2]).2 with same | ⟨cause, -, refused⟩
      · exact same
      · cases returned.symm.trans refused

end CounterMachine
