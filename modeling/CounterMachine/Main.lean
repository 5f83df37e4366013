import CounterMachine.CommandLine.Invocation

/-!
Contract: the program on a real file system.

Owns: the surroundings that give paths their meaning, reading the source, printing, and writing
the output file. Everything else is decided by the command line library.
-/

set_option autoImplicit false

namespace CounterMachine.CommandLine

open Text

/-- Home directories: one's own, and those in a list of accounts, of which each line names the
user first and the home directory in the sixth place. -/
def homesOf (own : Option String) (accounts : String) : List (String × String) :=
  let listed := (accounts.splitOn "\n").filterMap fun line =>
    match line.splitOn ":" with
    | name :: _ :: _ :: _ :: _ :: home :: _ => some (name, home)
    | _ => none
  own.toList.map (("", ·)) ++ listed

/-- Where paths start from; what lies there is looked up when it is needed. -/
def surroundings : IO Directory := do
  let working := FilePath.ofText (← IO.currentDir).toString
  let accounts ←
    try IO.FS.readFile "/etc/passwd"
    catch _ => pure ""
  return { working := working.names, homes := homesOf (← IO.getEnv "HOME") accounts }

/-- Bytes of a file, or the reason why it cannot be read. -/
def readBytes (path : String) : IO (Except ReadFailure (List UInt8)) := do
  try
    let bytes ← IO.FS.readBinFile path
    return .ok bytes.toList
  catch
    | .inappropriateType _ code _ =>
        return .error (if code = 21 then .isADirectory else .notADirectory)
    | .invalidArgument _ 36 _ => return .error .nameTooLong
    | .noFileOrDirectory _ _ _ => return .error .notFound
    | failure => throw failure

def fetchSource (directory : Directory) (file : String) : IO (Except SourceFailure String) := do
  if file = "-" then
    let bytes ← (← IO.getStdin).readBinToEnd
    return (readText bytes.toList).mapError .undecodable
  else
    match directory.expand (.ofText file) with
    | .error fault => return .error (.faulty fault)
    | .ok path =>
        match ← readBytes path.text with
        | .error cause => return .error (.unreadable path.text cause)
        | .ok bytes => return (readText bytes).mapError .undecodable

/-- Writes the file, or tells why it cannot be opened. -/
def storeOutput (location : Location) (text : String) : IO (Option OpenFailure) := do
  try
    IO.FS.createDirAll (Location.text location.dropLast)
    IO.FS.writeFile (Location.text location) text
    return none
  catch
    | .alreadyExists _ _ _ => return some .fileExists
    | .inappropriateType _ code _ =>
        return some (if code = 21 then .isADirectory else .notADirectory)
    | .invalidArgument _ 36 _ => return some .nameTooLong
    | failure => throw failure

def performHere (verbosity : Nat) (command : Command) : IO Exit := do
  let directory ← surroundings
  let reported : Output → Report ← match command.source? with
    | none => pure (command.report · "")
    | some file =>
        match ← fetchSource directory file with
        | .error failure => pure fun _ => failure.report
        | .ok source => pure (command.report · source)
  let hoped := reported (directory.outputOf command.destination)
  let report ← match hoped.files with
    | .written location text =>
        match ← storeOutput location text with
        | none => pure hoped
        | some cause => pure (reported (.blocked ⟨cause, []⟩))
    | .unchanged | .blocked _ => pure hoped
  IO.print report.output
  IO.eprint (report.standardError verbosity)
  return report.exit

end CounterMachine.CommandLine

open CounterMachine.CommandLine in
def main (arguments : List String) : IO UInt32 := do
  let exit ← match Request.ofArguments arguments with
    | .help usage => do
        IO.println usage
        pure Exit.success
    | .version => do
        IO.println (programName ++ " " ++ versionText)
        pure Exit.success
    | .noCommand => do
        IO.eprintln programForm.usage
        pure Exit.unusable
    | .complaint usage line => do
        IO.eprintln usage
        IO.eprintln line
        pure Exit.unusable
    | .perform verbosity command => performHere verbosity command
  return exit.status.toUInt32
