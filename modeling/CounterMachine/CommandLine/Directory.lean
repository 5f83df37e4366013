import CounterMachine.CommandLine.FilePath
import CounterMachine.Text.Utf8

/-!
Contract: files and directories around a working directory, held in memory.

Owns: what a path means, how it is followed, reading a file, opening one for writing with the
directories above it, and writing it. A directory exists where one is held or where something
lies below it. The null device keeps nothing of what is written.

Does not own: links and permissions.
-/

set_option autoImplicit false

namespace CounterMachine.CommandLine

open Text

/-- Home directories go by the names of their users, one's own by the empty name. -/
structure Directory where
  working : Location := []
  files : List (Location × List UInt8) := []
  directories : List Location := []
  homes : List (String × String) := []

namespace Directory

def file? (directory : Directory) (location : Location) : Option (List UInt8) :=
  directory.files.lookup location

def holdsDirectory (directory : Directory) (location : Location) : Bool :=
  location.isPrefixOf directory.working ||
    directory.directories.any (location.isPrefixOf ·) ||
    directory.files.any fun (place, _) => location.isPrefixOf place && place != location

/-! ## Paths -/

/-- A home directory that is itself given by a tilde is none. -/
def home? (directory : Directory) (user : String) : Option FilePath :=
  match directory.homes.lookup user with
  | none => none
  | some home => if home.toList.head? = some '~' then none else some (.ofHome home)

/-- Puts the home directory of a user in the place of a first name that stands for it. -/
def expand (directory : Directory) (path : FilePath) : Except PathFault FilePath :=
  match path.user? with
  | none => if path.holdsNull then .error .nullCharacter else .ok path
  | some user =>
      if user.toList.contains '\x00' then .error .nullCharacter
      else
        match directory.home? user with
        | none => .error .homeUnknown
        | some home =>
            let expanded : FilePath := { home with names := home.names ++ path.names.tail }
            if expanded.holdsNull then .error .nullCharacter else .ok expanded

/-- Where a path starts from. -/
def start (directory : Directory) (path : FilePath) : Location :=
  if path.slashes = 0 then directory.working else []

/-- Where a path leads when every directory on the way exists. -/
def locate (directory : Directory) (path : FilePath) : Location :=
  path.names.foldl Location.enter (directory.start path)

end Directory

/-! ## Reading -/

inductive ReadFailure where
  | notFound
  | notADirectory
  | isADirectory
  | nameTooLong
deriving DecidableEq, Repr

def ReadFailure.message (path : String) (failure : ReadFailure) : String :=
  (match failure with
  | .notFound => "[Errno 2] No such file or directory: "
  | .notADirectory => "[Errno 20] Not a directory: "
  | .isADirectory => "[Errno 21] Is a directory: "
  | .nameTooLong => "[Errno 36] File name too long: ") ++ quoted path

namespace Directory

/-- Follows names from a location; a name is looked up in an existing directory only. -/
def follow (directory : Directory) (location : Location) :
    List String → Except ReadFailure Location
  | [] => .ok location
  | name :: later =>
      if (directory.file? location).isSome then .error .notADirectory
      else if !directory.holdsDirectory location then .error .notFound
      else if longestName < name.utf8ByteSize then .error .nameTooLong
      else directory.follow (location.enter name) later

def read (directory : Directory) (path : FilePath) : Except ReadFailure (List UInt8) := do
  if longestPath < path.text.utf8ByteSize then throw .nameTooLong
  let location ← directory.follow (directory.start path) path.names
  match directory.file? location with
  | some bytes => return bytes
  | none => if directory.holdsDirectory location then throw .isADirectory else throw .notFound

end Directory

/-! ## Writing -/

/-- Why a file cannot be opened for writing. -/
inductive OpenFailure where
  /-- Where the directory of the file is to be, there is another file. -/
  | fileExists
  | notADirectory
  | isADirectory
  | nameTooLong
  /-- More directories are missing than can be made. -/
  | tooDeep
deriving DecidableEq, Repr

/-- A file that cannot be opened, and the directory that was made or found on the way. -/
structure Blockage where
  cause : OpenFailure
  reached : Location
deriving DecidableEq, Repr

namespace Directory

/-- How far names lead down through directories, of which missing ones are made, and what keeps
the next name from being one. -/
def descend (directory : Directory) (location : Location) :
    List String → Location × Option OpenFailure
  | [] => (location, none)
  | name :: later =>
      let below := location ++ [name]
      if longestName < name.utf8ByteSize then (location, some .nameTooLong)
      else if (directory.file? below).isSome then
        (location, some (if later.isEmpty then .fileExists else .notADirectory))
      else directory.descend below later

/-- How many of the directories down to a location are missing. -/
def missing (directory : Directory) (location : Location) : Nat :=
  (List.range location.length).countP fun depth =>
    !directory.holdsDirectory (location.take (depth + 1))

/-- What keeps a file from being opened for writing. The directories above it come first. -/
def blockage? (directory : Directory) (location : Location) : Option Blockage :=
  let above : Location := location.dropLast
  let (reached, obstacle) := directory.descend [] above
  if longestPath < above.text.utf8ByteSize then some ⟨.nameTooLong, []⟩
  else if mostMade < directory.missing above && !directory.holdsDirectory reached then
    some ⟨.tooDeep, []⟩
  else
    match obstacle with
    | some cause => some ⟨cause, reached⟩
    | none =>
        if longestPath < location.text.utf8ByteSize ||
            location.getLast?.any (longestName < ·.utf8ByteSize) then
          some ⟨.nameTooLong, reached⟩
        else if directory.holdsDirectory location then some ⟨.isADirectory, reached⟩
        else none

/-- Makes a directory and those above it. -/
def make (directory : Directory) (location : Location) : Directory :=
  if directory.holdsDirectory location then directory
  else { directory with directories := directory.directories ++ [location] }

/-- Replaces the file at a location or adds one; the directories above it come into being. -/
def write (directory : Directory) (location : Location) (bytes : List UInt8) : Directory :=
  if location = nullDevice then directory
  else if (directory.file? location).isSome then
    { directory with
      files := directory.files.map fun (place, old) =>
        (place, if place = location then bytes else old) }
  else { directory with files := directory.files ++ [(location, bytes)] }

/-- A working directory below the root that holds nothing, and the null device. -/
def vacant : Directory where
  working := ["home", "work"]
  files := [(nullDevice, [])]

def ofFiles (files : List (String × List UInt8)) : Directory :=
  files.foldl (fun directory (path, bytes) => directory.write (directory.locate (.ofText path)) bytes)
    vacant

/-- Files below the working directory, in the order of their paths. -/
def listing (directory : Directory) : List (String × List UInt8) :=
  let below := directory.files.filterMap fun (place, bytes) =>
    if directory.working.isPrefixOf place then
      some ("/".intercalate (place.drop directory.working.length), bytes)
    else none
  below.mergeSort fun left right => decide (left.1 ≤ right.1)

end Directory

end CounterMachine.CommandLine
