import CounterMachine.CommandLine.Arguments
import CounterMachine.Machine.Run
import CounterMachine.Text.Integer

/-!
Contract: what a command line asks for.

Owns: the forms of the program and of its four commands, the meaning of each parameter,
and the complaint about a command line that fits no form. The first complaint in the
order of the words wins; after that come missing places, and last words nobody took.

Does not own: the execution of a command.
-/

set_option autoImplicit false

namespace CounterMachine.CommandLine

open Text

def programName : String := "regmachine"

def versionText : String := "0.1.0"

/-! ## Forms -/

def helpSwitch : Switch := ⟨.help, ["-h", "--help"], false⟩

def outputSwitch : Switch := ⟨.output, ["-o", "--output"], true⟩

def explainSwitch : Switch := ⟨.explain, ["--explain"], false⟩

def filePlace : Place := ⟨.file, "FILE", .one, true⟩

def programForm : Form where
  program := programName
  switches :=
    [helpSwitch, ⟨.version, ["--version"], false⟩, ⟨.verbose, ["-v", "--verbose"], false⟩]
  places := [⟨.command, "<command>", .remainder, false⟩]

inductive CommandName where
  | run
  | link
  | encode
  | decode
deriving DecidableEq, Repr

def CommandName.text : CommandName → String
  | .run => "run"
  | .link => "link"
  | .encode => "encode"
  | .decode => "decode"

def CommandName.all : List CommandName := [.run, .link, .encode, .decode]

def CommandName.form (name : CommandName) : Form where
  program := programName ++ " " ++ name.text
  switches :=
    match name with
    | .run =>
        [helpSwitch, ⟨.maxSteps, ["--max-steps"], true⟩, ⟨.traceAll, ["--trace-all"], false⟩,
          outputSwitch]
    | .link => [helpSwitch, outputSwitch]
    | .encode => [helpSwitch, explainSwitch, outputSwitch]
    | .decode =>
        [helpSwitch, ⟨.startExponent, ["-s", "--start-exponent"], true⟩, explainSwitch,
          outputSwitch]
  places :=
    match name with
    | .run => [filePlace, ⟨.arguments, "ARGS", .many, true⟩]
    | .link | .encode => [filePlace]
    | .decode => [⟨.number, "NUMBER", .one, true⟩]

/-! ## Commands -/

/-- Where the result of a command goes. -/
inductive Destination where
  | standardOutput
  | file (path : String)
  /-- The switch was given without a path. -/
  | missing
deriving DecidableEq, Repr

def Destination.ofPath (path : String) : Destination :=
  if path = "-" then .standardOutput else .file path

/-- Settings and exponent are absent where their switch was given without a value. -/
inductive Command where
  | run (file : String) (arguments : List Nat) (settings : Option Settings)
      (output : Destination)
  | link (file : String) (output : Destination)
  | encode (file : String) (explain : Bool) (output : Destination)
  | decode (number : Nat) (exponent : Option Nat) (explain : Bool) (output : Destination)
deriving DecidableEq, Repr

inductive Request where
  /-- The usage of the program or of a command is asked for. -/
  | help (usage : String)
  | version
  | noCommand
  | complaint (usage line : String)
  | perform (verbosity : Nat) (command : Command)
deriving DecidableEq, Repr

/-- Values of the parameters of a command, as far as they are bound. -/
structure Choices where
  file : String := ""
  arguments : List Nat := []
  number : Nat := 0
  exponent : Option Nat := some 0
  maxSteps : Option Int := some ({} : Settings).maxSteps
  traceAll : Bool := false
  explain : Bool := false
  output : Destination := .standardOutput

def Choices.settings (choices : Choices) : Option Settings :=
  choices.maxSteps.map fun maxSteps => ⟨maxSteps, choices.traceAll⟩

def Choices.command (choices : Choices) : CommandName → Command
  | .run => .run choices.file choices.arguments choices.settings choices.output
  | .link => .link choices.file choices.output
  | .encode => .encode choices.file choices.explain choices.output
  | .decode => .decode choices.number choices.exponent choices.explain choices.output

/-! ## Values -/

def naturalValue (text : String) : Except String Nat :=
  match readInteger? text with
  | none => .error ("not an integer: " ++ quoted text)
  | some value =>
      if value < 0 then .error ("must be non-negative: " ++ decimal value)
      else .ok value.toNat

def integerValue (text : String) : Except String Int :=
  match readInteger? text with
  | none => .error ("invalid int value: " ++ quoted text)
  | some value => .ok value

def Binding.text (binding : Binding) : String :=
  binding.values.headD ""

/-- The value of a switch that may have been given without one. -/
def Binding.value? {Value : Type} (binding : Binding) (read : String → Except String Value) :
    Except String (Option Value) :=
  match binding.values with
  | [] => .ok none
  | text :: _ => (read text).map some

/-- Choices after a binding. Asking for help is no choice. -/
def Choices.choose (choices : Choices) (binding : Binding) : Except String Choices :=
  match binding.parameter with
  | .file => .ok { choices with file := binding.text }
  | .arguments => do
      let arguments ← binding.values.mapM naturalValue
      return { choices with arguments }
  | .number => do
      let number ← naturalValue binding.text
      return { choices with number }
  | .startExponent => do
      let exponent ← binding.value? naturalValue
      return { choices with exponent }
  | .maxSteps => do
      let maxSteps ← binding.value? integerValue
      return { choices with maxSteps }
  | .traceAll => .ok { choices with traceAll := true }
  | .explain => .ok { choices with explain := true }
  | .output =>
      .ok { choices with
        output := (binding.values.head?.map Destination.ofPath).getD .missing }
  | .help | .version | .verbose | .command => .ok choices

/-! ## Requests -/

def Form.complain (form : Form) (problem : String) : Request :=
  .complaint form.usage (form.program ++ ": error: " ++ problem)

def Binding.complain (binding : Binding) (form : Form) (problem : String) : Request :=
  form.complain ("argument " ++ binding.name ++ ": " ++ problem)

/-- The complaint that closes the bindings of a form, if any. -/
def Form.shortcoming (form : Form) (parsed : Parsed) : Except Request Unit :=
  match parsed.complaint with
  | some problem => .error (form.complain problem)
  | none =>
      match parsed.left.filter (·.required) with
      | [] => .ok ()
      | missing =>
          .error (form.complain
            ("the following arguments are required: " ++
              ", ".intercalate (missing.map (·.name))))

def chooseAll (form : Form) (choices : Choices) : List Binding → Except Request Choices
  | [] => .ok choices
  | binding :: later =>
      if binding.parameter = .help then .error (.help form.usage)
      else
        match choices.choose binding with
        | .ok choices => chooseAll form choices later
        | .error problem => .error (binding.complain form problem)

/-- A command with the words it could not use. -/
def readCommand (name : CommandName) (arguments : List String) :
    Except Request (Command × List String) := do
  let parsed := name.form.parse arguments
  let choices ← chooseAll name.form {} parsed.bindings
  name.form.shortcoming parsed
  return (choices.command name, parsed.extra)

/-- What the words before and at the command ask for. -/
structure Opening where
  verbosity : Nat := 0
  command : Option (Command × List String) := none

def Opening.extend (opening : Opening) (binding : Binding) : Except Request Opening :=
  match binding.parameter, binding.values with
  | .help, _ => .error (.help programForm.usage)
  | .version, _ => .error .version
  | .verbose, _ => .ok { opening with verbosity := opening.verbosity + 1 }
  | .command, name :: arguments =>
      match CommandName.all.find? fun known => known.text == name with
      | some known => do
          let command ← readCommand known arguments
          return { opening with command := some command }
      | none =>
          .error (binding.complain programForm
            ("invalid choice: " ++ quoted name ++ " (choose from " ++
              ", ".intercalate (CommandName.all.map fun known => quoted known.text) ++ ")"))
  | _, _ => .ok opening

def Opening.extendAll (opening : Opening) : List Binding → Except Request Opening
  | [] => .ok opening
  | binding :: later => do
      let opening ← opening.extend binding
      opening.extendAll later

def readRequest (arguments : List String) : Except Request Request := do
  let parsed := programForm.parse arguments
  let opening ← Opening.extendAll {} parsed.bindings
  programForm.shortcoming parsed
  let unused := parsed.extra ++ (opening.command.map Prod.snd).getD []
  match unused, opening.command with
  | [], some (command, _) => return .perform opening.verbosity command
  | [], none => return .noCommand
  | _, _ => return programForm.complain ("unrecognized arguments: " ++ " ".intercalate unused)

def Request.ofArguments (arguments : List String) : Request :=
  match readRequest arguments with
  | .ok request => request
  | .error request => request

end CounterMachine.CommandLine
