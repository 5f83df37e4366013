import CounterMachine.CommandLine.Invocation
import CounterMachine.Proofs.Sequencing
import Mathlib.Data.List.Infix

/-!
Contract: files that are opened, written and read back.

Owns: which locations a directory admits a file at, said of the location and what lies above it,
and that a file is opened there and nowhere else; which files a write changes; which paths can be
read, and that a file that was opened and written is read back.

Does not own: why a file cannot be opened or read, and what is written to one.

## Obstacles without their order

Obstacles are looked for one after the other, and which of them is named depends on the order.
Whether there is one does not, although the number of missing directories counts only where the
descent ends in a directory that is yet to be made: where it ends in an existing one, none is
missing.
-/

set_option autoImplicit false

namespace CounterMachine.CommandLine

variable {directory : Directory}

/-! ## Lengths -/

theorem Location.text_append_singleton {above : Location} (nonempty : above ≠ []) (name : String) :
    Location.text (above ++ [name]) = Location.text above ++ ("/" ++ name) := by
  have joined : String.join ((above ++ [name]).map ("/" ++ ·)) =
      String.join (above.map ("/" ++ ·)) ++ ("/" ++ name) := by
    rw [List.map_append, String.join_append]
    simp [String.join]
  simp only [text, List.isEmpty_iff, nonempty, List.append_eq_nil_iff, false_and, if_false]
  exact joined

/-- A path is not shorter than the one above it. -/
theorem Location.size_text_dropLast_le (location : Location) :
    (Location.text location.dropLast).utf8ByteSize ≤ (Location.text location).utf8ByteSize := by
  cases location using List.reverseRecOn with
  | nil => exact Nat.le_refl _
  | append_singleton above name =>
      rw [List.dropLast_concat]
      by_cases root : above = []
      · subst root
        simp [text, String.join]
      · rw [text_append_singleton root, String.utf8ByteSize_append]
        exact Nat.le_add_right _ _

/-! ## Directories -/

/-- Where there is a directory, there is one at every location above it. -/
theorem Directory.holdsDirectory_above {place location : Location} (above : place <+: location)
    (held : directory.holdsDirectory location = true) : directory.holdsDirectory place = true := by
  simp only [holdsDirectory, Bool.or_eq_true, List.any_eq_true, List.isPrefixOf_iff_prefix,
    Bool.and_eq_true, bne_iff_ne] at held ⊢
  rcases held with (working | ⟨known, member, below⟩) | ⟨file, member, below, other⟩
  · exact .inl (.inl (above.trans working))
  · exact .inl (.inr ⟨known, member, above.trans below⟩)
  · refine .inr ⟨file, member, above.trans below, fun same => other ?_⟩
    exact (below.eq_of_length_le (same ▸ above.length_le)).symm

theorem Directory.holdsDirectory_working (directory : Directory) :
    directory.holdsDirectory directory.working = true := by
  simp [holdsDirectory]

/-- Of an existing directory nothing is missing. -/
theorem Directory.missing_of_holdsDirectory {location : Location}
    (held : directory.holdsDirectory location = true) : directory.missing location = 0 := by
  refine List.countP_eq_zero.mpr fun depth _ => ?_
  rw [holdsDirectory_above (List.take_prefix _ _) held]
  exact Bool.false_ne_true

/-! ## Ways -/

/-- What holds along a way down holds of its first name and along the rest. -/
private theorem forall_ways_cons {Holds : List String → String → Prop} {name : String}
    {later : List String} :
    (∀ way next, way ++ [next] <+: name :: later → Holds way next) ↔
      Holds [] name ∧ ∀ way next, way ++ [next] <+: later → Holds (name :: way) next := by
  constructor
  · intro all
    exact ⟨all [] name (by simp), fun way next within =>
      all (name :: way) next (List.cons_prefix_cons.mpr ⟨rfl, within⟩)⟩
  · rintro ⟨here, further⟩ way next within
    cases way with
    | nil =>
        rw [List.nil_append, List.cons_prefix_cons] at within
        rw [within.1]
        exact here
    | cons first rest =>
        rw [List.cons_append, List.cons_prefix_cons] at within
        rw [within.1]
        exact further rest next within.2

/-- The places along a way down, other than its start. -/
private theorem forall_places_iff {Holds : Location → Prop} {names : List String} :
    (∀ way name, way ++ [name] <+: names → Holds (way ++ [name])) ↔
      ∀ place, place <+: names → place ≠ [] → Holds place := by
  constructor
  · intro all place within nonempty
    cases place using List.reverseRecOn with
    | nil => exact absurd rfl nonempty
    | append_singleton way name => exact all way name within
  · intro all way name within
    exact all _ within (by simp)

/-! ## Descending -/

/-- Names lead down unless one is too long or leads to a file. By induction on the names for every
location. -/
theorem Directory.descend_eq_none_iff (names : List String) (location : Location) :
    (directory.descend location names).2 = none ↔
      (∀ name ∈ names, name.utf8ByteSize ≤ longestName) ∧
        ∀ way name, way ++ [name] <+: names →
          directory.file? (location ++ (way ++ [name])) = none := by
  induction names generalizing location with
  | nil => simp [descend]
  | cons name later inductionHypothesis =>
      rw [forall_ways_cons, List.forall_mem_cons, descend]
      by_cases long : longestName < name.utf8ByteSize
      · simp [long, Nat.not_le.mpr long]
      · have short := Nat.not_lt.mp long
        cases found : directory.file? (location ++ [name]) with
        | some bytes => simp [found, long]
        | none => simp [found, long, short, inductionHypothesis]

theorem Directory.descend_root_eq_none_iff {names : List String} :
    (directory.descend [] names).2 = none ↔
      (∀ name ∈ names, name.utf8ByteSize ≤ longestName) ∧
        ∀ place, place <+: names → place ≠ [] → directory.file? place = none := by
  rw [descend_eq_none_iff, ← forall_places_iff]
  rfl

theorem Directory.descend_fst (names : List String) (location : Location)
    (free : (directory.descend location names).2 = none) :
    (directory.descend location names).1 = location ++ names := by
  induction names generalizing location with
  | nil => simp [descend]
  | cons name later inductionHypothesis =>
      simp only [descend] at free ⊢
      split at free
      · cases free
      · split at free
        · cases free
        · rw [if_neg ‹_›, if_neg ‹_›, inductionHypothesis _ free]
          simp

/-! ## Openings -/

/-- A file can be opened at the location: neither its path nor a name in it is too long, nothing
above it is a file, it is no directory, and not too many directories above it are missing. -/
structure Directory.Admits (directory : Directory) (location : Location) : Prop where
  short : (Location.text location).utf8ByteSize ≤ longestPath
  names : ∀ name ∈ location, name.utf8ByteSize ≤ longestName
  above : ∀ place, place <+: location.dropLast → place ≠ [] → directory.file? place = none
  free : directory.holdsDirectory location = false
  few : directory.missing location.dropLast ≤ mostMade

/-- Each of the obstacles is met or not. -/
private theorem Directory.blockage?_eq_none_iff_and {location : Location} :
    directory.blockage? location = none ↔
      (Location.text location.dropLast).utf8ByteSize ≤ longestPath ∧
        (directory.missing location.dropLast ≤ mostMade ∨
          directory.holdsDirectory (directory.descend [] location.dropLast).1 = true) ∧
        (directory.descend [] location.dropLast).2 = none ∧
        (Location.text location).utf8ByteSize ≤ longestPath ∧
        location.getLast?.any (longestName < ·.utf8ByteSize) = false ∧
        directory.holdsDirectory location = false := by
  rcases descended : directory.descend [] location.dropLast with ⟨reached, obstacle⟩
  simp only [blockage?, descended]
  cases obstacle with
  | some cause => simp [ite_eq_iff]
  | none => simp [ite_eq_iff, and_assoc, imp_iff_not_or]

theorem Directory.blockage?_eq_none_iff {location : Location} :
    directory.blockage? location = none ↔ directory.Admits location := by
  rw [blockage?_eq_none_iff_and, descend_root_eq_none_iff]
  cases location using List.reverseRecOn with
  | nil =>
      have root : directory.holdsDirectory [] = true :=
        holdsDirectory_above List.nil_prefix directory.holdsDirectory_working
      constructor
      · rintro ⟨-, -, -, -, -, free⟩
        rw [root] at free
        cases free
      · intro admitted
        rw [admitted.free] at root
        cases root
  | append_singleton above name =>
      simp only [List.dropLast_concat, List.getLast?_concat, Option.any_some,
        decide_eq_false_iff_not, Nat.not_lt]
      constructor
      · rintro ⟨-, few, way, short, last, free⟩
        have arrived := descend_fst above [] (descend_root_eq_none_iff.mpr way)
        rw [arrived, List.nil_append] at few
        refine ⟨short, ?_, ?_, free, ?_⟩
        · rw [List.forall_mem_append, List.forall_mem_singleton]
          exact ⟨way.1, last⟩
        · rw [List.dropLast_concat]
          exact way.2
        · rw [List.dropLast_concat]
          cases few with
          | inl few => exact few
          | inr held => exact (missing_of_holdsDirectory held).le.trans (Nat.zero_le _)
      · rintro ⟨short, names, free, vacant, few⟩
        rw [List.forall_mem_append, List.forall_mem_singleton] at names
        rw [List.dropLast_concat] at free few
        have shorter := Location.size_text_dropLast_le (above ++ [name])
        rw [List.dropLast_concat] at shorter
        exact ⟨shorter.trans short, .inl few, ⟨names.1, free⟩, short, names.2, vacant⟩

/-- A path is opened as the file at the location it leads to, home directories put in. -/
theorem Directory.outputOf_eq_file_iff {file : String} {location : Location} :
    directory.outputOf (.file file) = .file location ↔
      ∃ path, directory.expand (.ofText file) = .ok path ∧ directory.locate path = location ∧
        directory.Admits location := by
  rw [outputOf]
  cases directory.expand (.ofText file) with
  | error fault => simp
  | ok path =>
      simp only [Except.ok.injEq, exists_eq_left', ← blockage?_eq_none_iff]
      cases blocked : directory.blockage? (directory.locate path) with
      | some blockage =>
          simp only [reduceCtorEq, false_iff]
          rintro ⟨rfl, free⟩
          rw [blocked] at free
          cases free
      | none =>
          simp only [Output.file.injEq]
          refine ⟨?_, And.left⟩
          rintro rfl
          exact ⟨rfl, blocked⟩

/-! ## Written files -/

private theorem lookup_replaced (files : List (Location × List UInt8)) (changed : Location)
    (bytes : List UInt8) (location : Location) :
    (files.map fun (place, old) => (place, if place = changed then bytes else old)).lookup
        location =
      (files.lookup location).map fun old => if location = changed then bytes else old := by
  induction files with
  | nil => rfl
  | cons file later inductionHypothesis =>
      obtain ⟨place, old⟩ := file
      simp only [List.map_cons, List.lookup_cons, inductionHypothesis]
      by_cases here : location = place
      · subst here
        rw [beq_self_eq_true]
        rfl
      · have elsewhere : (location == place) = false := beq_eq_false_iff_ne.mpr here
        simp only [elsewhere]

/-- A write changes one file, unless it goes to the null device. -/
theorem Directory.file?_write (directory : Directory) (written : Location) (bytes : List UInt8)
    (location : Location) :
    (directory.write written bytes).file? location =
      if location = written ∧ location ≠ nullDevice then some bytes
      else directory.file? location := by
  by_cases device : written = nullDevice
  · have kept : ¬ (location = written ∧ location ≠ nullDevice) := by
      rintro ⟨rfl, other⟩
      exact other device
    rw [if_neg kept, write, if_pos device]
  · have replaced : (location = written ∧ location ≠ nullDevice) ↔ location = written :=
      and_iff_left_of_imp fun here => here ▸ device
    simp only [write, if_neg device, replaced]
    by_cases known : (directory.file? written).isSome = true
    · rw [if_pos known]
      unfold file? at known ⊢
      rw [lookup_replaced]
      by_cases here : location = written
      · obtain ⟨old, found⟩ := Option.isSome_iff_exists.mp known
        rw [if_pos here, here, found, Option.map_some, if_pos rfl]
      · simp only [if_neg here, Option.map_id']
    · rw [if_neg known]
      unfold file? at known ⊢
      rw [List.lookup_append, List.lookup_cons]
      by_cases here : location = written
      · have absent := Option.not_isSome_iff_eq_none.mp known
        rw [if_pos here, here, absent, beq_self_eq_true]
        rfl
      · rw [if_neg here, beq_eq_false_iff_ne.mpr here]
        exact Option.or_none

/-! ## Readings -/

/-- From the location a name can be followed: there is a directory and no file, and the name is
not too long. -/
structure Directory.Leads (directory : Directory) (location : Location) (name : String) : Prop where
  vacant : directory.file? location = none
  held : directory.holdsDirectory location = true
  short : name.utf8ByteSize ≤ longestName

private theorem Directory.follow_cons_eq_ok_iff {name : String} {later : List String}
    {location reached : Location} :
    directory.follow location (name :: later) = .ok reached ↔
      directory.Leads location name ∧ directory.follow (location.enter name) later = .ok reached := by
  constructor
  · intro followed
    rw [follow] at followed
    split at followed
    · cases followed
    · split at followed
      · cases followed
      · split at followed
        · cases followed
        · next occupied absent long =>
          refine ⟨⟨?_, ?_, Nat.not_lt.mp long⟩, followed⟩
          · exact Option.not_isSome_iff_eq_none.mp occupied
          · simpa using absent
  · rintro ⟨⟨vacant, held, short⟩, followed⟩
    simp [follow, vacant, held, Nat.not_lt.mpr short, followed]

/-- Names are followed one by one, by induction on the names for every location. -/
theorem Directory.follow_eq_ok_iff {names : List String} {location reached : Location} :
    directory.follow location names = .ok reached ↔
      (∀ way name, way ++ [name] <+: names →
        directory.Leads (way.foldl Location.enter location) name) ∧
        names.foldl Location.enter location = reached := by
  induction names generalizing location with
  | nil => simp [follow]
  | cons name later inductionHypothesis =>
      rw [follow_cons_eq_ok_iff, inductionHypothesis, forall_ways_cons, List.foldl_nil,
        List.foldl_cons, and_assoc]
      rfl

/-- A path is read as the file at the location it leads to, if each of its names can be followed
and it is not too long. -/
theorem Directory.read_eq_ok_iff {path : FilePath} {bytes : List UInt8} :
    directory.read path = .ok bytes ↔
      path.text.utf8ByteSize ≤ longestPath ∧
        (∀ way name, way ++ [name] <+: path.names →
          directory.Leads (way.foldl Location.enter (directory.start path)) name) ∧
        directory.file? (directory.locate path) = some bytes := by
  rw [read]
  by_cases long : longestPath < path.text.utf8ByteSize
  · simp [long, Nat.not_le.mpr long, throw, throwThe, MonadExceptOf.throw]
  · have short := Nat.not_lt.mp long
    have located : path.names.foldl Location.enter (directory.start path) =
        directory.locate path := rfl
    simp only [if_neg long, short, true_and, bind_eq_ok, follow_eq_ok_iff, and_assoc,
      exists_and_left, exists_eq_left', located]
    refine and_congr_right fun _ => ?_
    cases directory.file? (directory.locate path) with
    | some found => simp
    | none =>
        simp only [reduceCtorEq, iff_false]
        split
        · nofun
        · nofun

/-! ## Files that are written and read -/

/-- What lies above a file is a directory. -/
theorem Directory.holdsDirectory_above_file {place location : Location} {bytes : List UInt8}
    (found : directory.file? location = some bytes) (above : place <+: location)
    (other : place ≠ location) : directory.holdsDirectory place = true := by
  obtain ⟨earlier, later, split, -⟩ := List.lookup_eq_some_iff.mp found
  have member : (location, bytes) ∈ directory.files := by
    rw [split]
    simp
  simp only [holdsDirectory, Bool.or_eq_true, List.any_eq_true, List.isPrefixOf_iff_prefix,
    Bool.and_eq_true, bne_iff_ne]
  exact .inr ⟨_, member, above, other.symm⟩

/-- A write does not move the working directory. -/
theorem Directory.start_write (written : Location) (bytes : List UInt8) (path : FilePath) :
    (directory.write written bytes).start path = directory.start path := by
  rw [write]
  split
  · rfl
  · split
    · rfl
    · rfl

/-- Names other than two dots lead down. -/
theorem Location.foldl_enter {names : List String} (downward : ".." ∉ names)
    (location : Location) : names.foldl Location.enter location = location ++ names := by
  induction names generalizing location with
  | nil => simp
  | cons name later inductionHypothesis =>
      rw [List.mem_cons, not_or] at downward
      rw [List.foldl_cons, enter, if_neg (Ne.symm downward.1), inductionHypothesis downward.2,
        List.append_assoc, List.singleton_append]

/-- The names of an admitted location lead to what was written there. -/
private theorem Directory.Admits.leads_write {location place : Location} {name : String}
    (admitted : directory.Admits location) (rooted : directory.file? [] = none)
    (kept : location ≠ nullDevice) (bytes : List UInt8) (within : place ++ [name] <+: location) :
    (directory.write location bytes).Leads place name := by
  obtain ⟨later, split⟩ := within
  have above : place <+: location.dropLast := by
    rw [← split, List.append_assoc, List.dropLast_append_of_ne_nil (by simp)]
    exact List.prefix_append place _
  have other : place ≠ location := by
    rintro rfl
    simp at split
  have found : (directory.write location bytes).file? location = some bytes := by
    rw [file?_write, if_pos ⟨rfl, kept⟩]
  refine ⟨?_, holdsDirectory_above_file found (above.trans (List.dropLast_prefix _)) other, ?_⟩
  · rw [file?_write, if_neg fun here => other here.1]
    by_cases root : place = []
    · rw [root, rooted]
    · exact admitted.above place above root
  · apply admitted.names
    rw [← split]
    simp

/-- A file that can be opened at the end of a path is read, along this path, as what was last
written to it. The path has no name for a directory above, and the root is no file. -/
theorem Directory.read_write {path : FilePath} (downward : ".." ∉ path.names)
    (short : path.text.utf8ByteSize ≤ longestPath) (rooted : directory.file? [] = none)
    (admitted : directory.Admits (directory.locate path))
    (kept : directory.locate path ≠ nullDevice) (bytes : List UInt8) :
    (directory.write (directory.locate path) bytes).read path = .ok bytes := by
  have located : directory.locate path = directory.start path ++ path.names :=
    Location.foldl_enter downward _
  have same : (directory.write (directory.locate path) bytes).locate path =
      directory.locate path := by
    rw [locate, start_write, ← locate]
  have written := directory.file?_write (directory.locate path) bytes (directory.locate path)
  rw [if_pos ⟨rfl, kept⟩] at written
  rw [read_eq_ok_iff, same, start_write]
  refine ⟨short, fun way name within => ?_, written⟩
  have downwardHere : ".." ∉ way := fun member =>
    downward (within.subset (List.mem_append_left _ member))
  rw [Location.foldl_enter downwardHere]
  apply admitted.leads_write rooted kept
  rw [located, List.append_assoc, List.prefix_append_right_inj]
  exact within

end CounterMachine.CommandLine
