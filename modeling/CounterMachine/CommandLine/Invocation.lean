import CounterMachine.CommandLine.Commands

/-!
Contract: one call of the program in a working directory.

Owns: the way from words, files and standard input to what the caller sees and to the
files that are there afterwards.
-/

set_option autoImplicit false

namespace CounterMachine.CommandLine

open Text

inductive Response where
  | help (usage : String)
  | version (text : String)
  /-- No command was given, so the usage is shown as an error. -/
  | noCommand (usage : String)
  | complaint (usage line : String)
  | report (exit : Exit) (output standardError : String)
deriving DecidableEq, Repr

def Response.exit : Response → Exit
  | .help _ | .version _ => .success
  | .noCommand _ | .complaint _ _ => .unusable
  | .report exit _ _ => exit

/-- Text of a source file; `-` stands for standard input. -/
def readSource (directory : Directory) (input : String) (file : String) :
    Except SourceFailure String :=
  if file = "-" then .ok (String.ofList (unifyLineEnds input.toList))
  else
    match directory.expand (.ofText file) with
    | .error fault => .error (.faulty fault)
    | .ok path =>
        match directory.read path with
        | .error cause => .error (.unreadable path.text cause)
        | .ok bytes => (readText bytes).mapError .undecodable

/-- What comes of opening the output of a command. -/
def Directory.outputOf (directory : Directory) : Destination → Output
  | .standardOutput => .standardOutput
  | .missing => .missing
  | .file file =>
      match directory.expand (.ofText file) with
      | .error fault => .faulty fault
      | .ok path =>
          let location := directory.locate path
          match directory.blockage? location with
          | some blockage => .blocked blockage
          | none => .file location

def Command.perform (directory : Directory) (input : String) (command : Command) : Report :=
  let output := directory.outputOf command.destination
  match command.source? with
  | none => command.report output ""
  | some file =>
      match readSource directory input file with
      | .error failure => failure.report
      | .ok source => command.report output source

def Directory.store (directory : Directory) : FileChange → Directory
  | .unchanged => directory
  | .written location text => directory.write location text.toUTF8.toList
  | .blocked reached => directory.make reached

/-- Response to a call, and the files after it. -/
def invoke (directory : Directory) (arguments : List String) (input : String) :
    Response × Directory :=
  match Request.ofArguments arguments with
  | .help usage => (.help usage, directory)
  | .version => (.version (programName ++ " " ++ versionText), directory)
  | .noCommand => (.noCommand programForm.usage, directory)
  | .complaint usage line => (.complaint usage line, directory)
  | .perform verbosity command =>
      let report := command.perform directory input
      (.report report.exit report.output (report.standardError verbosity),
        directory.store report.files)

end CounterMachine.CommandLine
