/-!
Contract: finite maps from names that remember the order of first insertion.

Owns: look-up, insertion and the laws between them. A name occurs once; writing a
known name keeps its place, a new name goes to the end.
-/

set_option autoImplicit false

namespace CounterMachine

/-- Entries after a value is stored under a name. -/
def insertEntry {Value : Type} (name : String) (value : Value) :
    List (String × Value) → List (String × Value)
  | [] => [(name, value)]
  | entry :: later =>
      if entry.1 = name then (name, value) :: later
      else entry :: insertEntry name value later

theorem map_fst_insertEntry {Value : Type} (name : String) (value : Value)
    (entries : List (String × Value)) :
    (insertEntry name value entries).map Prod.fst =
      if name ∈ entries.map Prod.fst then entries.map Prod.fst
      else entries.map Prod.fst ++ [name] := by
  induction entries with
  | nil => simp [insertEntry]
  | cons entry later inductionHypothesis =>
      by_cases same : entry.1 = name
      · simp [insertEntry, same]
      · have different : ¬ name = entry.1 := fun equal => same equal.symm
        simp only [insertEntry, same, if_false, List.map_cons, List.mem_cons,
          different, false_or, inductionHypothesis]
        split <;> simp

theorem mem_insertEntry {Value : Type} {name : String} {value : Value}
    {entries : List (String × Value)} {entry : String × Value}
    (member : entry ∈ insertEntry name value entries) :
    entry = (name, value) ∨ entry ∈ entries := by
  induction entries with
  | nil => exact .inl (List.mem_singleton.mp member)
  | cons first later inductionHypothesis =>
      rw [insertEntry] at member
      split at member
      · exact (List.mem_cons.mp member).imp_right (List.mem_cons_of_mem first)
      · rcases List.mem_cons.mp member with rfl | inLater
        · exact .inr List.mem_cons_self
        · exact (inductionHypothesis inLater).imp_right (List.mem_cons_of_mem first)

structure Table (Value : Type) where
  entries : List (String × Value)
  distinct : (entries.map Prod.fst).Nodup

namespace Table

variable {Value : Type}

def empty : Table Value := ⟨[], by simp⟩

instance : Inhabited (Table Value) := ⟨empty⟩

def names (table : Table Value) : List String :=
  table.entries.map Prod.fst

def get? (table : Table Value) (name : String) : Option Value :=
  table.entries.lookup name

def has (table : Table Value) (name : String) : Bool :=
  table.names.contains name

def size (table : Table Value) : Nat :=
  table.entries.length

def insert (table : Table Value) (name : String) (value : Value) : Table Value where
  entries := insertEntry name value table.entries
  distinct := by
    rw [map_fst_insertEntry]
    split
    · exact table.distinct
    · next absent =>
      rw [List.nodup_append]
      exact ⟨table.distinct, by simp, fun known member other fresh equal => by
        rw [List.mem_singleton] at fresh
        exact absent (fresh ▸ equal ▸ member)⟩

@[ext]
theorem ext {left right : Table Value} (same : left.entries = right.entries) :
    left = right := by
  cases left
  cases right
  cases same
  rfl

theorem names_insert (table : Table Value) (name : String) (value : Value) :
    (table.insert name value).names =
      if name ∈ table.names then table.names else table.names ++ [name] :=
  map_fst_insertEntry name value table.entries

private theorem lookup_insertEntry (name : String) (value : Value)
    (entries : List (String × Value)) (wanted : String) :
    (insertEntry name value entries).lookup wanted =
      if wanted = name then some value else entries.lookup wanted := by
  induction entries with
  | nil =>
      by_cases same : wanted = name
      · simp [insertEntry, same]
      · simp [insertEntry, same, List.lookup_cons, beq_eq_false_iff_ne.mpr same]
  | cons entry later inductionHypothesis =>
      obtain ⟨known, old⟩ := entry
      by_cases here : known = name
      · subst here
        by_cases same : wanted = known
        · simp [insertEntry, same]
        · simp [insertEntry, same, List.lookup_cons, beq_eq_false_iff_ne.mpr same]
      · by_cases same : wanted = known
        · subst same
          simp [insertEntry, here]
        · simp [insertEntry, here, List.lookup_cons, beq_eq_false_iff_ne.mpr same,
            inductionHypothesis]

theorem get?_insert (table : Table Value) (name wanted : String) (value : Value) :
    (table.insert name value).get? wanted =
      if wanted = name then some value else table.get? wanted :=
  lookup_insertEntry name value table.entries wanted

theorem has_iff {table : Table Value} {name : String} :
    table.has name = true ↔ ∃ value, table.get? name = some value := by
  unfold has names get?
  rw [List.contains_iff_mem, List.mem_map]
  constructor
  · rintro ⟨entry, member, rfl⟩
    apply Option.isSome_iff_exists.mp
    rw [Option.isSome_iff_ne_none]
    intro absent
    have different := List.lookup_eq_none_iff.mp absent entry member
    simp at different
  · rintro ⟨value, found⟩
    obtain ⟨before, after, split, _⟩ := List.lookup_eq_some_iff.mp found
    exact ⟨(name, value), by simp [split], rfl⟩

/-- Inserting adds its name and no other. -/
theorem has_insert {table : Table Value} {name wanted : String} {value : Value} :
    (table.insert name value).has wanted = true ↔ wanted = name ∨ table.has wanted = true := by
  rw [has_iff, has_iff, get?_insert]
  by_cases same : wanted = name
  · simp [same]
  · simp [same]

/-- Inserting leaves no entry but the new one and old ones. -/
theorem mem_entries_insert {table : Table Value} {name : String} {value : Value}
    {entry : String × Value} (member : entry ∈ (table.insert name value).entries) :
    entry = (name, value) ∨ entry ∈ table.entries :=
  mem_insertEntry member

theorem mem_entries_of_get? {table : Table Value} {name : String} {value : Value}
    (found : table.get? name = some value) : (name, value) ∈ table.entries := by
  obtain ⟨before, after, split, -⟩ := List.lookup_eq_some_iff.mp found
  simp [split]

end Table

end CounterMachine
