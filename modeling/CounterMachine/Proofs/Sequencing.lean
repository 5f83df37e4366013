/-!
Contract: computations in sequence, each of which may fail.

Owns: what a sequence that succeeds says about its parts, and the same for a computation
whose failures are renamed; when two computations are equal after their values and failures are
converted; and the failure of a computation as a value, by which the first failure of several can
be named. With these no proof has to open the sequence of a definition.
-/

set_option autoImplicit false

namespace CounterMachine

variable {Failure Renamed First Second : Type}

@[simp]
theorem pure_eq_ok (value : First) : (pure value : Except Failure First) = .ok value :=
  rfl

@[simp]
theorem ok_bind (value : First) (next : First → Except Failure Second) :
    (Except.ok value >>= next) = next value :=
  rfl

@[simp]
theorem error_bind (failure : Failure) (next : First → Except Failure Second) :
    (Except.error failure >>= next) = .error failure :=
  rfl

/-- A sequence succeeds exactly when both parts do, the second on the value of the first. -/
theorem bind_eq_ok {first : Except Failure First} {next : First → Except Failure Second}
    {value : Second} :
    (first >>= next) = .ok value ↔ ∃ middle, first = .ok middle ∧ next middle = .ok value := by
  cases first with
  | ok middle =>
      constructor
      · intro second
        exact ⟨middle, rfl, second⟩
      · rintro ⟨other, same, second⟩
        rw [Except.ok.inj same]
        exact second
  | error failure =>
      constructor
      · intro impossible
        cases impossible
      · rintro ⟨other, impossible, second⟩
        cases impossible

/-- A sequence fails where one of its parts does, the second on the value of the first. -/
theorem bind_eq_error {first : Except Failure First} {next : First → Except Failure Second}
    {failure : Failure} :
    (first >>= next) = .error failure ↔
      first = .error failure ∨ ∃ value, first = .ok value ∧ next value = .error failure := by
  cases first with
  | ok value => simp
  | error known => simp

@[simp]
theorem mapError_eq_ok {rename : Failure → Renamed} {computed : Except Failure First}
    {value : First} : computed.mapError rename = .ok value ↔ computed = .ok value := by
  cases computed with
  | ok known =>
      constructor
      · intro same
        exact congrArg Except.ok (Except.ok.inj same)
      · intro same
        exact congrArg Except.ok (Except.ok.inj same)
  | error failure =>
      constructor
      · intro impossible
        cases impossible
      · intro impossible
        cases impossible

/-! ## Conversion -/

/-- The computation with its value or its failure converted. -/
def converted (convert : First → Second) (rename : Failure → Renamed)
    (computed : Except Failure First) : Except Renamed Second :=
  (computed.map convert).mapError rename

/-- Both computations succeed, or both fail, with what is converted to the same. -/
theorem converted_eq_iff {convert : First → Second} {rename : Failure → Renamed}
    {computed other : Except Failure First} :
    converted convert rename computed = converted convert rename other ↔
      (∃ value otherValue, computed = .ok value ∧ other = .ok otherValue ∧
        convert value = convert otherValue) ∨
      ∃ failure otherFailure, computed = .error failure ∧ other = .error otherFailure ∧
        rename failure = rename otherFailure := by
  constructor
  · intro same
    cases computed with
    | ok value =>
        cases other with
        | ok otherValue => exact .inl ⟨value, otherValue, rfl, rfl, Except.ok.inj same⟩
        | error otherFailure => cases same
    | error failure =>
        cases other with
        | ok otherValue => cases same
        | error otherFailure => exact .inr ⟨failure, otherFailure, rfl, rfl, Except.error.inj same⟩
  · rintro (⟨value, otherValue, rfl, rfl, same⟩ | ⟨failure, otherFailure, rfl, rfl, same⟩)
    · exact congrArg Except.ok same
    · exact congrArg Except.error same

/-! ## Failures as values -/

/-- The failure of a computation, if it fails. -/
def failure? : Except Failure First → Option Failure
  | .ok _ => none
  | .error failure => some failure

@[simp]
theorem failure?_ok (value : First) : failure? (.ok value : Except Failure First) = none :=
  rfl

@[simp]
theorem failure?_error (failure : Failure) :
    failure? (.error failure : Except Failure First) = some failure :=
  rfl

theorem failure?_eq_some {computed : Except Failure First} {failure : Failure} :
    failure? computed = some failure ↔ computed = .error failure := by
  cases computed with
  | ok value => simp
  | error known => simp

end CounterMachine
