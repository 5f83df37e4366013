import CounterMachine.Text.Numeral
import CounterMachine.Text.Quoted

/-!
Contract: words of a command line as switches and places.

Owns: what a word may be, how a switch is spelt, and the order in which words are bound
to the parameters of a form. A long switch may be shortened while no other has the same
start, one-letter switches may share a word, and a value may be attached to its switch.
Two dashes are no value: attached to a switch, they leave it without one.

A run of places is bound together: once the words before a switch have been bound, the
places that took no word are not filled by words behind the switch.

Does not own: what a value means; bindings hold the words as they were given.
-/

set_option autoImplicit false

namespace CounterMachine.CommandLine

open Text

inductive Parameter where
  | help
  | version
  | verbose
  | command
  | file
  | arguments
  | number
  | maxSteps
  | traceAll
  | explain
  | startExponent
  | output
deriving DecidableEq, Repr

structure Switch where
  parameter : Parameter
  names : List String
  takesValue : Bool
deriving DecidableEq, Repr

/-- How many words a place takes: one, any number of values, or one value and all words
behind it, switches included. -/
inductive Extent where
  | one
  | many
  | remainder
deriving DecidableEq, Repr

structure Place where
  parameter : Parameter
  name : String
  extent : Extent
  required : Bool
deriving DecidableEq, Repr

/-- The command line that a program or one of its commands takes. -/
structure Form where
  program : String
  switches : List Switch
  places : List Place

structure Binding where
  parameter : Parameter
  /-- The name that complaints use. -/
  name : String
  values : List String
deriving DecidableEq, Repr

def Switch.name (switch : Switch) : String :=
  "/".intercalate switch.names

/-! ## Usage -/

def Switch.usage (switch : Switch) : String :=
  "[" ++ switch.names.headD "" ++ (if switch.takesValue then " VALUE" else "") ++ "]"

def Place.usage (place : Place) : String :=
  match place.extent with
  | .one => place.name
  | .many => "[" ++ place.name ++ " ...]"
  | .remainder => place.name ++ " ..."

/-- The switches and places of a form on one line. -/
def Form.usage (form : Form) : String :=
  "usage: " ++ " ".intercalate
    (form.program :: form.switches.map Switch.usage ++ form.places.map Place.usage)

/-! ## Words -/

/-- A word that starts like a switch, with the text attached to the name: behind an equals
sign, or behind the letter of a one-letter name. -/
structure Spelling where
  switch : Switch
  name : String
  attached : Option String

def Spelling.isLong (spelling : Spelling) : Bool :=
  ['-', '-'].isPrefixOf spelling.name.toList

inductive Word where
  /-- The first `--`, behind which no word is a switch. -/
  | dashes
  | value (text : String)
  | known (text : String) (spelling : Spelling)
  | unknown (text : String)

def Word.text : Word → String
  | .dashes => "--"
  | .value text | .known text _ | .unknown text => text

def Word.isSwitch : Word → Bool
  | .known _ _ | .unknown _ => true
  | .dashes | .value _ => false

/-- Spellings of the form's switches, in the order in which they were declared. -/
def Form.spellings (form : Form) : List (String × Switch) :=
  form.switches.flatMap fun switch => switch.names.map fun name => (name, switch)

/-- The text before the first equals sign and, where there is one, the text behind it. -/
def splitAtEquals (text : List Char) : List Char × Option (List Char) :=
  (text.takeWhile (· != '='),
    match text.dropWhile (· != '=') with
    | [] => none
    | _ :: behind => some behind)

/-- A minus sign before digits, or before digits with a point among or before them. -/
def looksNegative (text : List Char) : Bool :=
  match text with
  | '-' :: digits =>
      let digits := if digits.getLast? = some '\n' then digits.dropLast else digits
      isNumeral digits ||
        match digits.dropWhile isDecimalDigit with
        | '.' :: fraction => isNumeral fraction
        | _ => false
  | _ => false

/-- Switches that a word could be short for, or hold the letter of. -/
def Form.candidates (form : Form) (text : List Char) : List Spelling :=
  match text with
  | '-' :: '-' :: _ =>
      let (start, attached) := splitAtEquals text
      form.spellings.filterMap fun (name, switch) =>
        if start.isPrefixOf name.toList then
          some ⟨switch, name, attached.map String.ofList⟩
        else none
  | dash :: letter :: value =>
      form.spellings.filterMap fun (name, switch) =>
        if name = String.ofList [dash, letter] then
          some ⟨switch, name, some (String.ofList value)⟩
        else none
  | _ => []

/-- What a word before `--` is; an ambiguous one is refused. -/
def Form.word (form : Form) (text : String) : Except String Word :=
  let characters := text.toList
  let exact := fun (name : List Char) => form.spellings.lookup (String.ofList name)
  match characters with
  | '-' :: _ :: _ =>
      match exact characters with
      | some switch => .ok (.known text ⟨switch, text, none⟩)
      | none =>
          let (start, attached) := splitAtEquals characters
          match attached, exact start with
          | some value, some switch =>
              .ok (.known text ⟨switch, String.ofList start, some (String.ofList value)⟩)
          | _, _ =>
              match form.candidates characters with
              | [spelling] => .ok (.known text spelling)
              | [] =>
                  if looksNegative characters || characters.contains ' ' then
                    .ok (.value text)
                  else .ok (.unknown text)
              | several =>
                  .error ("ambiguous option: " ++ text ++ " could match " ++
                    ", ".intercalate (several.map (·.name)))
  | _ => .ok (.value text)

def Form.words (form : Form) : List String → Except String (List Word)
  | [] => .ok []
  | text :: later =>
      if text = "--" then .ok (.dashes :: later.map .value)
      else do
        let word ← form.word text
        let words ← form.words later
        return word :: words

/-! ## Places -/

/-- The words a place takes from the front, and the words behind them. -/
def Extent.take? (extent : Extent) (words : List Word) : Option (List Word × List Word) :=
  let isDashes := fun
    | Word.dashes => true
    | _ => false
  match extent with
  | .many => some (words.takeWhile (!·.isSwitch), words.dropWhile (!·.isSwitch))
  | .one =>
      match words.dropWhile isDashes with
      | .value text :: behind =>
          some (words.takeWhile isDashes ++ .value text :: behind.takeWhile isDashes,
            behind.dropWhile isDashes)
      | _ => none
  | .remainder =>
      match words.dropWhile isDashes with
      | .value _ :: _ => some (words, [])
      | _ => none

/-- A place drops the first `--` among its words, but a command keeps it. -/
def Place.bind (place : Place) (words : List Word) : Binding :=
  let texts := words.map Word.text
  ⟨place.parameter, place.name,
    if place.extent = .remainder then texts else texts.erase "--"⟩

/-- Binds as many places as the words at the front allow. -/
def bindPlaces : List Place → List Word → List Binding × List Place × List Word
  | [], words => ([], [], words)
  | place :: places, words =>
      match place.extent.take? words with
      | none => ([], place :: places, words)
      | some (taken, behind) =>
          let (bindings, left, rest) := bindPlaces places behind
          (place.bind taken :: bindings, left, rest)

/-! ## Switches -/

def Switch.complaint (switch : Switch) (problem : String) : String :=
  "argument " ++ switch.name ++ ": " ++ problem

def Switch.ignores (switch : Switch) (value : String) : String :=
  switch.complaint ("ignored explicit argument " ++ quoted value)

/-- What the switches in one word bind, and the words behind. -/
abbrev SwitchResult := Except String (List Binding × List Word)

def Switch.bind (switch : Switch) (values : List String) : Binding :=
  ⟨switch.parameter, switch.name, values⟩

/-- A switch with a text attached to it as its value. -/
def Switch.bindAttached (switch : Switch) (text : String) : Binding :=
  switch.bind ([text].erase "--")

/-- A switch with no value attached. -/
def Switch.bindFrom (switch : Switch) (behind : List Word) : SwitchResult :=
  if switch.takesValue then
    match behind with
    | .value text :: rest => .ok ([switch.bind [text]], rest)
    | _ => .error (switch.complaint "expected one argument")
  else .ok ([switch.bind []], behind)

/-- A one-letter switch with the letters behind it in its word: its value, or further
one-letter switches. -/
def Form.bindLetters (form : Form) (behind : List Word) (switch : Switch) :
    List Char → SwitchResult
  | [] => switch.bindFrom behind
  | letter :: rest =>
      let text := String.ofList (letter :: rest)
      if switch.takesValue then .ok ([switch.bindAttached text], behind)
      else
        match form.spellings.lookup (String.ofList ['-', letter]) with
        | none => .error (switch.ignores text)
        | some next => do
            let (bindings, left) ← form.bindLetters behind next rest
            return (switch.bind [] :: bindings, left)

/-- A switch that takes no value can use an attached text only as the letters of further
switches, which a long name cannot be followed by. -/
def Form.bindSwitch (form : Form) (spelling : Spelling) (behind : List Word) :
    SwitchResult :=
  let switch := spelling.switch
  match spelling.attached with
  | none => switch.bindFrom behind
  | some text =>
      if switch.takesValue then .ok ([switch.bindAttached text], behind)
      else if text.isEmpty || spelling.isLong then .error (switch.ignores text)
      else form.bindLetters behind switch text.toList

/-! ## Forms -/

/-- Bindings in the order in which they arise, up to a complaint if there is one, and
what is left of the places and of the words. -/
structure Parsed where
  bindings : List Binding := []
  extra : List String := []
  left : List Place := []
  complaint : Option String := none

/-- Binds words from the front; each round uses up at least one of them. -/
def Form.bindWithin (form : Form) : Nat → Parsed → List Word → Parsed
  | 0, parsed, _ => parsed
  | fuel + 1, parsed, words =>
      match words with
      | .unknown text :: behind =>
          form.bindWithin fuel { parsed with extra := parsed.extra ++ [text] } behind
      | .known _ spelling :: behind =>
          match form.bindSwitch spelling behind with
          | .error problem => { parsed with complaint := some problem }
          | .ok (bindings, rest) =>
              form.bindWithin fuel { parsed with bindings := parsed.bindings ++ bindings } rest
      | _ =>
          let (bindings, left, rest) := bindPlaces parsed.left words
          let parsed := { parsed with bindings := parsed.bindings ++ bindings, left }
          let unused := if rest.length < words.length then [] else rest.takeWhile (!·.isSwitch)
          if rest.any Word.isSwitch then
            form.bindWithin fuel
              { parsed with extra := parsed.extra ++ unused.map Word.text }
              (rest.drop unused.length)
          else { parsed with extra := parsed.extra ++ rest.map Word.text }

def Form.parse (form : Form) (arguments : List String) : Parsed :=
  match form.words arguments with
  | .error problem => { complaint := some problem }
  | .ok words => form.bindWithin (words.length + 1) { left := form.places } words

end CounterMachine.CommandLine
