import CounterMachine.Instruction

/-!
Contract: the canonical text of instructions and programs.

Owns: the form in which an instruction is listed, which reads back as the same
instruction, and the listing of a program, one labelled line per instruction.

Linked operands come out as absolute indices.
-/

set_option autoImplicit false

namespace CounterMachine

open Text

namespace Target

def text : Target → String
  | .name text => text
  | .number value => decimal value

def numbers : Target → List Int
  | .name _ => []
  | .number value => [value]

end Target

namespace Operation

variable {Jump : Type} [Operand Jump]

def text : Operation Jump → String
  | .init register value => "init " ++ register ++ " " ++ decimal value
  | .inc register next => register ++ "+ -> " ++ (Operand.target next).text
  | .dec register onPositive onZero =>
      register ++ "- -> " ++ (Operand.target onPositive).text ++ ", " ++
        (Operand.target onZero).text
  | .halt reason => "halt \"" ++ reason ++ "\""
  | .eval description register code =>
      "eval \"" ++ description ++ "\" " ++ register ++ " ::= " ++ code ++ ";"

/-- The numbers that occur in the text. -/
def numbers : Operation Jump → List Int
  | .init _ value => [value]
  | .inc _ next => (Operand.target next).numbers
  | .dec _ onPositive onZero =>
      (Operand.target onPositive).numbers ++ (Operand.target onZero).numbers
  | .halt _ | .eval _ _ _ => []

def write (limit : DigitLimit) (operation : Operation Jump) : Except Violation String := do
  checkNumerals limit operation.numbers
  return operation.text

end Operation

def Token.write {Jump : Type} [Operand Jump] (limit : DigitLimit) (token : Token Jump) :
    Except Violation String := do
  let body ← token.asInstruction
  body.operation.write limit

/-- One line of a listing. -/
def listingLine (index : Nat) (text : String) : String :=
  "l" ++ decimal index ++ ": " ++ text ++ "\n"

def listingFrom {Jump : Type} [Operand Jump] (limit : DigitLimit) :
    Nat → List (Token Jump) → Except Violation String
  | _, [] => .ok ""
  | index, token :: later => do
      let text ← token.write limit
      let rest ← listingFrom limit (index + 1) later
      return listingLine index text ++ rest

def listing {Jump : Type} [Operand Jump] (limit : DigitLimit) (tokens : List (Token Jump)) :
    Except Violation String :=
  listingFrom limit 0 tokens

def Program.tokens (program : Program) : List (Token Int) :=
  program.map .instruction

@[simp]
theorem Program.length_tokens (program : Program) : program.tokens.length = program.length :=
  List.length_map _

@[simp]
theorem Program.tokens_getElem? (program : Program) (place : Nat) :
    program.tokens[place]? = program[place]?.map .instruction :=
  List.getElem?_map

theorem Program.tokens_getElem?_eq_some_iff {program : Program} {place : Nat}
    {body : Instruction Int} :
    program.tokens[place]? = some (.instruction body) ↔ program[place]? = some body := by
  simp

def Program.listing (limit : DigitLimit) (program : Program) : Except Violation String :=
  CounterMachine.listing limit program.tokens

/-- Listing of instructions from `index` on, whatever numbers occur in it. -/
def Program.textFrom : Nat → Program → String
  | _, [] => ""
  | index, body :: later =>
      listingLine index body.operation.text ++ Program.textFrom (index + 1) later

def Program.text (program : Program) : String :=
  Program.textFrom 0 program

private theorem listingFrom_unlimited (program : Program) (index : Nat) :
    listingFrom .unlimited index program.tokens = .ok (Program.textFrom index program) := by
  induction program generalizing index with
  | nil => rfl
  | cons body later inductionHypothesis =>
      have rest := inductionHypothesis (index + 1)
      unfold Program.tokens at rest ⊢
      simp only [List.map_cons, listingFrom, Token.write, Token.asInstruction,
        Operation.write, checkNumerals_unlimited, bind, Except.bind, rest, pure, Except.pure,
        Program.textFrom]

/-- Without a limit every program has a listing. -/
theorem Program.listing_unlimited (program : Program) :
    program.listing .unlimited = .ok program.text :=
  listingFrom_unlimited program 0

end CounterMachine
