/-!
Contract: sets of characters as lists of code point ranges.

Owns: membership in such a list. The ranges are inclusive and ascending, so a
search may stop at the first range that starts past the code point.

Does not own: which characters belong to which class; each class has a module
of its own.
-/

set_option autoImplicit false

namespace CounterMachine.Text

/-- Inclusive ranges of code points, in ascending order and disjoint. -/
abbrev CodeRanges := List (Nat × Nat)

def CodeRanges.covers : CodeRanges → Nat → Bool
  | [], _ => false
  | (first, last) :: later, code =>
      if code < first then false
      else if code ≤ last then true
      else CodeRanges.covers later code

/-- Position of a covered code point, counted through the ranges in order. -/
def CodeRanges.offset? : CodeRanges → Nat → Option Nat
  | [], _ => none
  | (first, last) :: later, code =>
      if code < first then none
      else if code ≤ last then some (code - first)
      else (CodeRanges.offset? later code).map (· + (last - first + 1))

theorem CodeRanges.covers_eq_isSome_offset (ranges : CodeRanges) (code : Nat) :
    ranges.covers code = (ranges.offset? code).isSome := by
  induction ranges with
  | nil => rfl
  | cons range later inductionHypothesis =>
      unfold CodeRanges.covers CodeRanges.offset?
      split
      · rfl
      · split
        · rfl
        · simp [inductionHypothesis]

end CounterMachine.Text
