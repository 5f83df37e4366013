import CounterMachine.Text.Quoted

/-!
Contract: paths by their parts.

Owns: the names in a path, its normal form, the user whose home directory it begins with, the
locations that names lead to, and the bounds on the length of names and paths.

Does not own: what is found at a location.
-/

set_option autoImplicit false

namespace CounterMachine.CommandLine

open Text

/-- The slashes that a path starts with, two of which are kept apart from one and from more, and
its names. Empty names and single dots mean nothing and are left out. -/
structure FilePath where
  slashes : Nat
  names : List String
deriving DecidableEq, Repr

namespace FilePath

def ofText (text : String) : FilePath where
  slashes :=
    match text.toList with
    | '/' :: '/' :: '/' :: _ => 1
    | '/' :: '/' :: _ => 2
    | '/' :: _ => 1
    | _ => 0
  names :=
    ((text.toList.splitOn '/').map String.ofList).filter fun name => name != "" && name != "."

/-- The normal form of the path. -/
def text (path : FilePath) : String :=
  let text := String.ofList (List.replicate path.slashes '/') ++ "/".intercalate path.names
  if text.isEmpty then "." else text

/-- A path that holds a null character leads nowhere. -/
def holdsNull (path : FilePath) : Bool :=
  path.names.any (·.toList.contains '\x00')

/-- The user whose home directory the first name stands for; the empty name is one's own. -/
def user? : FilePath → Option String
  | ⟨0, name :: _⟩ =>
      match name.toList with
      | '~' :: user => some (String.ofList user)
      | _ => none
  | _ => none

/-- Path of a home directory. Slashes at its end are dropped, and nothing but slashes is the
root. -/
def ofHome (home : String) : FilePath :=
  let kept := (home.toList.reverse.dropWhile (· == '/')).reverse
  ofText (if kept.isEmpty then "/" else String.ofList kept)

end FilePath

/-- Why a path has no meaning, whatever files there are. -/
inductive PathFault where
  | nullCharacter
  /-- It begins with the home directory of a user who has none. -/
  | homeUnknown
deriving DecidableEq, Repr

/-! ## Locations -/

/-- Names from the root down. -/
abbrev Location := List String

/-- The root is its own parent. -/
def Location.enter (location : Location) (name : String) : Location :=
  if name = ".." then location.dropLast else location ++ [name]

/-- The absolute path of a location. -/
def Location.text (location : Location) : String :=
  if location.isEmpty then "/" else String.join (location.map ("/" ++ ·))

def nullDevice : Location := ["dev", "null"]

/-- How many bytes a name in a path may have. -/
def longestName : Nat := 255

/-- How many bytes a path may have. -/
def longestPath : Nat := 4095

/-- How many directories can be made at once, each of them within the one that is made first. -/
def mostMade : Nat := 980

end CounterMachine.CommandLine
