import CounterMachine.Proofs.Source.Fronts

/-!
Contract: where the tokens of a text stand.

Owns: what may stand between tokens; the division of a text into its tokens and the gaps between
them, with the line on which each token starts; that every text which is parsed is divided into
exactly its tokens; and that each of them is read again from its own text.

Does not own: texts that are refused.
-/

set_option autoImplicit false

namespace CounterMachine

open Text Source

/-! ## Divided texts -/

/-- Line ends, white space and comments before the text behind them. A comment goes on to the end
of its line. -/
inductive IsGap (behind : List Char) : List Char → Prop where
  | nil : IsGap behind []
  | newline {gap : List Char} (later : IsGap behind gap) : IsGap behind ('\n' :: gap)
  | space {character : Char} {gap : List Char}
      (white : character ∈ [' ', '\t', '\r', '\x0c', '\x0b']) (later : IsGap behind gap) :
      IsGap behind (character :: gap)
  | comment {body gap : List Char} (oneLine : '\n' ∉ body)
      (ends : ∀ next ∈ (gap ++ behind).head?, next = '\n') (later : IsGap behind gap) :
      IsGap behind ('/' :: '/' :: (body ++ gap))

/-- A token and the gap behind it. -/
structure Piece where
  token : Token Target
  gap : List Char

def Piece.written (piece : Piece) : List Char :=
  piece.token.text.toList ++ piece.gap

def writtenPieces (pieces : List Piece) : List Char :=
  pieces.flatMap Piece.written

/-- The text, which starts on the line, consists of a gap and pieces. Each token stands on the
line that the line ends before it lead to. -/
structure Divided (line : Nat) (text front : List Char) (pieces : List Piece) : Prop where
  text_eq : text = front ++ writtenPieces pieces
  front_isGap : IsGap (writtenPieces pieces) front
  located : ∀ before piece after, pieces = before ++ piece :: after →
    IsGap (writtenPieces after) piece.gap ∧
      piece.token.line = line + newlines (front ++ writtenPieces before)

namespace Divided

variable {line : Nat} {text front : List Char} {pieces : List Piece}

theorem empty (line : Nat) : Divided line [] [] [] where
  text_eq := rfl
  front_isGap := .nil
  located := by
    intro before piece after split
    cases before <;> cases split

/-- More of the gap in front moves every token down by its line ends. -/
theorem afterGap {more : List Char} (divided : Divided (line + newlines more) text front pieces)
    (isGap : IsGap (writtenPieces pieces) (more ++ front)) :
    Divided line (more ++ text) (more ++ front) pieces where
  text_eq := by rw [divided.text_eq, List.append_assoc]
  front_isGap := isGap
  located := by
    intro before piece after split
    obtain ⟨gap, stands⟩ := divided.located before piece after split
    refine ⟨gap, ?_⟩
    rw [stands, List.append_assoc, newlines_append more]
    omega

theorem afterToken {token : Token Target} (stands : token.line = line)
    (divided : Divided (line + newlines token.text.toList) text front pieces) :
    Divided line (token.text.toList ++ text) [] (⟨token, front⟩ :: pieces) where
  text_eq := by
    rw [divided.text_eq]
    simp [writtenPieces, Piece.written]
  front_isGap := .nil
  located := by
    intro before piece after split
    cases before with
    | nil =>
        obtain ⟨rfl, rfl⟩ := List.cons.inj split
        exact ⟨divided.front_isGap, by rw [stands]; rfl⟩
    | cons first before =>
        obtain ⟨rfl, splitLater⟩ := List.cons.inj split
        obtain ⟨gap, located⟩ := divided.located before piece after splitLater
        refine ⟨gap, ?_⟩
        rw [located]
        simp only [writtenPieces, List.flatMap_cons, Piece.written, List.nil_append,
          newlines_append]
        omega

end Divided

/-! ## Parsed texts -/

namespace Source

private theorem isGap_spaces {behind gap spaces : List Char} (consists : Consists isSpace spaces)
    (isGap : IsGap behind gap) : IsGap behind (spaces ++ gap) := by
  induction spaces with
  | nil => exact isGap
  | cons first later inductionHypothesis =>
      obtain ⟨white, laterConsists⟩ := List.forall_mem_cons.mp consists
      exact .space (by simpa using isSpace_iff.mp white) (inductionHypothesis laterConsists)

/-- By cases on the items that stand for nothing. -/
private theorem Item.Fits.isGap {item : Item} {behind gap : List Char} {line : Int}
    (fit : item.Fits (gap ++ behind)) (absent : item.token? line = none)
    (isGap : IsGap behind gap) : IsGap behind (item.render ++ gap) := by
  rcases Item.token?_eq_none absent with rfl | ⟨body, rfl⟩ | ⟨body, rfl⟩
  · exact .newline isGap
  · refine .comment fit.1 ?_ isGap
    intro next first
    simpa using fit.2 next first
  · exact isGap_spaces fit.1.2 isGap

/-- By induction on the items, each of which is a token or a part of the gap before one. -/
private theorem exists_divided {items : List Item} (fit : ItemsFit items []) (line : Nat) :
    ∃ front pieces, pieces.map Piece.token = tokensOf line items ∧
      Divided line (renderItems items) front pieces := by
  induction items generalizing line with
  | nil => exact ⟨[], [], rfl, .empty line⟩
  | cons item later inductionHypothesis =>
      obtain ⟨front, pieces, tokens, divided⟩ :=
        inductionHypothesis fit.2 (line + newlines item.render)
      cases found : item.token? line with
      | none =>
          have itemFits := fit.1
          rw [List.append_nil, divided.text_eq] at itemFits
          refine ⟨item.render ++ front, pieces, ?_,
            divided.afterGap (itemFits.isGap found divided.front_isGap)⟩
          rw [tokens, tokensOf, found]
          rfl
      | some token =>
          obtain ⟨text, stands, -⟩ := Item.token?_eq_some found
          have written : token.text.toList = item.render := by rw [text, String.toList_ofList]
          rw [← written] at divided
          refine ⟨[], ⟨token, front⟩ :: pieces, ?_, ?_⟩
          · rw [List.map_cons, tokens, tokensOf, found]
            rfl
          · rw [renderItems_cons, ← written]
            exact divided.afterToken stands

end Source

/-- A text that is parsed is divided into its tokens, each on its line, and gaps. The text of a
token alone is parsed as the same token on the first line. -/
theorem parse_divides {limit : DigitLimit} {source file : String} {tokens : List (Token Target)}
    (accepted : parse limit source file = .ok tokens) :
    (∃ front pieces, pieces.map Piece.token = tokens ∧
      Divided 1 source.toList front pieces) ∧
    ∀ token ∈ tokens, ∀ ownFile, parse limit token.text ownFile = .ok [token.atLine 1] := by
  obtain ⟨items, split, fit, admitted, rfl⟩ := parse_eq_ok_iff.mp accepted
  refine ⟨split ▸ exists_divided fit 1, fun token member ownFile => ?_⟩
  obtain ⟨item, inItems, line, -, found⟩ := exists_item_of_mem_tokensOf member
  obtain ⟨behind, itemFits⟩ := fit.exists_fits inItems
  obtain ⟨text, -, again⟩ := Item.token?_eq_some found
  have inText : ItemsFit [item] behind := ⟨itemFits, trivial⟩
  have alone : ItemsFit [item] [] := inText.of_front List.nil_prefix
  refine parse_eq_ok_iff.mpr ⟨[item], ?_, alone, ?_, ?_⟩
  · rw [text, String.toList_ofList]
    exact (List.append_nil item.render).symm
  · intro other inAlone
    rw [List.mem_singleton.mp inAlone]
    exact admitted item inItems
  · have first := again 1
    rw [tokensOf, show ((1 : Nat) : Int) = 1 from rfl, first]
    rfl

/-- An evaluation whose description is written over two lines. -/
def twoLineEvaluation : Token Target :=
  .instruction ⟨.eval "a\nb" "r1" "r0", "Eval \"a\nb\" r1 ::= r0 ;", 2, false, none⟩

/-- The token behind it stands on the line that it ends on. -/
theorem parse_divides_twoLines :
    let tokens := [.label "l" "l:" 2, twoLineEvaluation,
      .instruction ⟨.halt "Halt", "halt", 3, false, none⟩]
    parse .standard "// go\nl: Eval \"a\nb\" r1 ::= r0 ;halt" = .ok tokens ∧
      (∃ front pieces, pieces.map Piece.token = tokens ∧
        Divided 1 "// go\nl: Eval \"a\nb\" r1 ::= r0 ;halt".toList front pieces) ∧
      parse .standard "Eval \"a\nb\" r1 ::= r0 ;" = .ok [twoLineEvaluation.atLine 1] := by
  intro tokens
  have accepted :
      parse .standard "// go\nl: Eval \"a\nb\" r1 ::= r0 ;halt" =
        .ok [.label "l" "l:" 2, twoLineEvaluation,
          .instruction ⟨.halt "Halt", "halt", 3, false, none⟩] := rfl
  obtain ⟨divided, alone⟩ := parse_divides accepted
  have member : twoLineEvaluation ∈ tokens := List.mem_cons_of_mem _ List.mem_cons_self
  exact ⟨accepted, divided, alone twoLineEvaluation member ""⟩

end CounterMachine
