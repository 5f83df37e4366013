import CounterMachine.Text.Numeral
import CounterMachine.Text.Quoted

/-!
Contract: what the toolchain reports when a text, a program or a number is refused.

Owns: numbered error codes, places in a source, the families of errors with what
each one carries, and the one-line form of a report.

Does not own: when an error arises; the stages describe their failures in types of
their own and give each one its diagnostic.
-/

set_option autoImplicit false

namespace CounterMachine

open Text

inductive Phase where
  | reading
  | linking
  | running
  | numbering
deriving DecidableEq, Repr

def Phase.name : Phase → String
  | .reading => "syntax"
  | .linking => "link"
  | .running => "runtime"
  | .numbering => "codec"

structure ErrorCode where
  number : Int
  phase : Phase
  title : String := ""
  series : String := "RM"
deriving DecidableEq, Repr

namespace ErrorCode

/-- The series, and the number in at least four places. -/
def text (code : ErrorCode) : String :=
  code.series ++ "-" ++ paddedDecimal 4 code.number

/-- Two codes name the same error when series and number agree, whatever their titles. -/
def sameError (left right : ErrorCode) : Bool :=
  left.series == right.series && left.number == right.number

def describe (code : ErrorCode) : String :=
  "ErrorCode(" ++ quoted code.text ++ ", " ++ quoted code.phase.name ++ ")"

def unparsableInput : ErrorCode := ⟨1001, .reading, "unparsable input", "RM"⟩
def undefinedLabel : ErrorCode := ⟨2001, .linking, "undefined label", "RM"⟩
def danglingLabel : ErrorCode := ⟨2002, .linking, "label has no instruction", "RM"⟩
def targetTooLarge : ErrorCode := ⟨2003, .linking, "jump target too large", "RM"⟩
def outOfBounds : ErrorCode := ⟨3001, .running, "program counter out of bounds", "RM"⟩
def evalFailed : ErrorCode := ⟨3002, .running, "eval instruction failed", "RM"⟩
def emptyProgram : ErrorCode := ⟨3003, .running, "empty program", "RM"⟩
def invalidExpression : ErrorCode := ⟨3101, .running, "invalid expression", "RM"⟩
def notEncodable : ErrorCode := ⟨4001, .numbering, "instruction cannot be encoded", "RM"⟩
def notDecodable : ErrorCode := ⟨4002, .numbering, "number cannot be decoded", "RM"⟩

end ErrorCode

/-- Line zero stands for an unknown line, the empty name for a text without a file. -/
structure Span where
  line : Int := 0
  file : String := ""
deriving DecidableEq, Repr

def Span.text (span : Span) : String :=
  if span.file.isEmpty && span.line == 0 then "<unknown location>"
  else
    ":".intercalate
      ((if span.file.isEmpty then [] else [span.file]) ++
        (if 0 < span.line then [decimal span.line] else []))

/-- Families of errors; encoding and decoding errors are both codec errors. -/
inductive Family where
  | general
  | parse
  | link
  | runtime
  | expression
  | codec
  | encode
  | decode
deriving DecidableEq, Repr

namespace Family

def all : List Family :=
  [.general, .parse, .link, .runtime, .expression, .codec, .encode, .decode]

/-- The family an error of the given family belongs to besides its own. -/
def parent? : Family → Option Family
  | .general => none
  | .encode | .decode => some .codec
  | .parse | .link | .runtime | .expression | .codec => some .general

def isWithin (family ancestor : Family) : Bool :=
  family == ancestor ||
    match family.parent? with
    | none => false
    | some parent => parent == ancestor || parent.parent? == some ancestor

/-- The code of an error that names no other. -/
def usualCode : Family → ErrorCode
  | .general | .parse => .unparsableInput
  | .link => .undefinedLabel
  | .runtime => .outOfBounds
  | .expression => .invalidExpression
  | .codec | .encode => .notEncodable
  | .decode => .notDecodable

end Family

/-- A refused expression and the reason. -/
structure ExpressionReport where
  message : String
  expression : String := ""
deriving DecidableEq, Repr

/-- What an error carries besides message, code, place and hint. -/
inductive Detail where
  | general
  | parse (remainder : String)
  | link (label : String)
  | runtime (index : Option Int) (instruction : String) (cause : Option ExpressionReport)
  | expression (text : String)
  | codec
  | encode
  | decode
deriving DecidableEq, Repr

def Detail.family : Detail → Family
  | .general => .general
  | .parse _ => .parse
  | .link _ => .link
  | .runtime _ _ _ => .runtime
  | .expression _ => .expression
  | .codec => .codec
  | .encode => .encode
  | .decode => .decode

structure Diagnostic where
  detail : Detail
  message : String
  code : ErrorCode
  span : Span := {}
  hint : String := ""
deriving DecidableEq, Repr

namespace Diagnostic

def family (diagnostic : Diagnostic) : Family :=
  diagnostic.detail.family

/-- Place, message and code on one line; a hint follows on a line of its own. -/
def render (diagnostic : Diagnostic) : String :=
  let report :=
    diagnostic.span.text ++ ": error: " ++ diagnostic.message ++
      " [" ++ diagnostic.code.text ++ "]"
  if diagnostic.hint.isEmpty then report else report ++ "\nhint: " ++ diagnostic.hint

/-- The first line of a text, cut to forty characters. -/
def snippet (remainder : String) : String :=
  let line := remainder.toList.takeWhile (· != '\n')
  if 40 < line.length then String.ofList (line.take 37) ++ "..." else String.ofList line

def unparsed (line : Int) (remainder file hint : String) : Diagnostic where
  detail := .parse remainder
  message :=
    "Failed to fully parse input, problem on line " ++ decimal line ++ " from " ++
      quoted (snippet remainder)
  code := .unparsableInput
  span := ⟨line, file⟩
  hint := hint

/-- The wording follows the code; every other code words an undefined label. -/
def unlinked (label : String) (line : Int) (code : ErrorCode) : Diagnostic where
  detail := .link label
  message :=
    if code.sameError .danglingLabel then
      "Label " ++ label ++ " is not followed by an instruction"
    else if code.sameError .targetTooLarge then
      "Jump target " ++ String.ofList (label.toList.take 20) ++ "... (" ++
        decimal label.length ++ " digits) is too large"
    else "Could not find label " ++ label
  code := code
  span := ⟨line, ""⟩

end Diagnostic

def ExpressionReport.diagnostic (report : ExpressionReport) : Diagnostic where
  detail := .expression report.expression
  message := report.message
  code := .invalidExpression

end CounterMachine
