import CounterMachine.RegisterName
import CounterMachine.Table
import CounterMachine.Text.Quoted
import CounterMachine.Violation

/-!
Contract: the registers of a running machine.

Owns: reading, writing and seeding. An unrecorded register holds zero, and reading one
records it, so that every register an instruction reads or writes is recorded.
-/

set_option autoImplicit false

namespace CounterMachine

open Text

/-- Values by name, in the order in which the names were first recorded. -/
structure RegisterFile where
  table : Table Int

namespace RegisterFile

def empty : RegisterFile := ⟨.empty⟩

def entries (registers : RegisterFile) : List (String × Int) :=
  registers.table.entries

def value (registers : RegisterFile) (name : String) : Int :=
  (registers.table.get? name).getD 0

def has (registers : RegisterFile) (name : String) : Bool :=
  registers.table.has name

def size (registers : RegisterFile) : Nat :=
  registers.table.size

def write (registers : RegisterFile) (name : String) (value : Int) : RegisterFile :=
  ⟨registers.table.insert name value⟩

/-- Records a register without changing its value. -/
def touch (registers : RegisterFile) (name : String) : RegisterFile :=
  if registers.has name then registers else registers.write name 0

theorem value_write (registers : RegisterFile) (name wanted : String) (value : Int) :
    (registers.write name value).value wanted =
      if wanted = name then value else registers.value wanted := by
  unfold RegisterFile.value write
  rw [Table.get?_insert]
  split
  · rfl
  · rfl

theorem has_write {registers : RegisterFile} {name wanted : String} {value : Int} :
    (registers.write name value).has wanted = true ↔
      wanted = name ∨ registers.has wanted = true :=
  Table.has_insert

theorem value_of_not_has {registers : RegisterFile} {name : String}
    (absent : ¬ registers.has name = true) : registers.value name = 0 := by
  unfold RegisterFile.value
  cases found : registers.table.get? name with
  | none => rfl
  | some value => exact absurd (Table.has_iff.mpr ⟨value, found⟩) absent

@[simp]
theorem value_touch (registers : RegisterFile) (name : String) :
    (registers.touch name).value = registers.value := by
  unfold touch
  split
  · rfl
  · next absent =>
    funext wanted
    rw [value_write]
    split
    · next same => rw [same, value_of_not_has absent]
    · rfl

theorem has_touch {registers : RegisterFile} {name wanted : String} :
    (registers.touch name).has wanted = true ↔
      wanted = name ∨ registers.has wanted = true := by
  unfold touch
  split
  · next recorded => exact ⟨.inr, fun known => known.elim (fun same => same ▸ recorded) id⟩
  · exact has_write

/-- Records the arguments under numbered names from `index` on. -/
def seedFrom (limit : DigitLimit) (index : Nat) (registers : RegisterFile) :
    List Int → Except Violation RegisterFile
  | [] => .ok registers
  | value :: later =>
      if value < 0 then do
        checkNumerals limit [value]
        .error (.negativeArgument index value)
      else seedFrom limit (index + 1) (registers.write (numberedRegister index) value) later

def ofArguments (limit : DigitLimit) (arguments : List Int) : Except Violation RegisterFile :=
  seedFrom limit 0 empty arguments

/-- Entries in the order of their names. -/
def sorted (registers : RegisterFile) : List (String × Int) :=
  registers.entries.mergeSort fun left right => decide (left.1 ≤ right.1)

def describe (limit : DigitLimit) (registers : RegisterFile) : Except Violation String := do
  checkNumerals limit (registers.entries.map Prod.snd)
  return "RegisterFile(\x7b" ++
      ", ".intercalate
        (registers.entries.map fun (name, value) => quoted name ++ ": " ++ decimal value) ++
      "\x7d)"

end RegisterFile

end CounterMachine
