import CounterMachine.Proofs.Source.Fronts

/-!
Contract: texts that are not programs as a whole.

Owns: where the reading of such a text stops, and what is left of it there; that the part in front
is a program by itself, of the same items; and that the error which is reported carries the rest
and the line of its first character.

Does not own: texts that are refused for a literal that is too long.

## Why the part in front stands by itself

An item was read with all of the text behind it in view, and the part in front ends before that.
A run of characters that stopped at the rest stops at the end as well, and a part of an item that
was missing cannot come in when the text becomes shorter.
-/

set_option autoImplicit false

namespace CounterMachine

open Text Source

namespace Source

/-- No item is read exactly where each kind of item is tried in vain. -/
theorem Item.read?_eq_none_iff {text : List Char} :
    Item.read? text = none ↔ ∀ reader ∈ Item.readers, reader text = none :=
  List.findSome?_eq_none_iff

/-- The items at the front of a text are those of the text that they are written in. -/
theorem scan_of_front {text rest : List Char} {items : List Item}
    (scanned : scan text = (items, rest)) : scan (renderItems items) = (items, []) := by
  obtain ⟨-, fit, -⟩ := scan_eq_iff.mp scanned
  exact scan_eq_iff.mpr
    ⟨(List.append_nil _).symm, fit.of_front List.nil_prefix, Item.read?_nil⟩

/-- Reading stops between two parts of a text: the first is read whole, as the items, and no kind
of item is read from the second. -/
structure StopsBetween (text : List Char) (items : List Item) (consumed remainder : List Char) :
    Prop where
  text_eq : text = consumed ++ remainder
  scanned : scan consumed = (items, [])
  stuck : ∀ reader ∈ Item.readers, reader remainder = none

theorem stopsBetween_of_scan {text remainder : List Char} {items : List Item}
    (scanned : scan text = (items, remainder)) :
    StopsBetween text items (renderItems items) remainder where
  text_eq := (scan_eq_iff.mp scanned).1
  scanned := scan_of_front scanned
  stuck := Item.read?_eq_none_iff.mp (scan_eq_iff.mp scanned).2.2

end Source

/-- A text of which something is left behind its items is refused where its items end: the text in
front is a program of the same items, and nothing is read from the rest, which the error carries
with its line. -/
theorem parse_stops_behind_items {source : String} {items : List Item} {remainder : List Char}
    (scanned : scan source.toList = (items, remainder)) (incomplete : remainder ≠ [])
    (limit : DigitLimit) (file : String) :
    ∃ consumed, StopsBetween source.toList items consumed remainder ∧
      parse .unlimited (String.ofList consumed) file = .ok (tokensOf 1 items) ∧
      parse limit source file = .error {
        line := 1 + newlines consumed
        remainder := String.ofList remainder
        file } := by
  have stops := stopsBetween_of_scan scanned
  refine ⟨renderItems items, stops, ?_, ?_⟩
  · obtain ⟨split, fit, -⟩ := scan_eq_iff.mp stops.scanned
    rw [List.append_nil] at split
    exact parse_unlimited_eq_ok_iff.mpr ⟨items, by rw [String.toList_ofList], fit, rfl⟩
  · unfold parse
    rw [scanned]
    cases remainder with
    | nil => exact absurd rfl incomplete
    | cons first behind => rfl

/-- The reason of a halt is not closed, so that its opening mark is left over, two lines down and
behind a blank that is then read as white space. -/
theorem parse_stops_behind_items_unclosed :
    let items : List Item := [.trace "Trace".toList, .newline,
      .dec "r0".toList (some ⟨[' '], [' '], .positiveOnly (.word ['l']) (some [' '])⟩), .newline,
      .halt "halt".toList none, .space [' ']]
    scan "Trace\nr0- -> l ,\nhalt \"open".toList = (items, "\"open".toList) ∧
      "\"open".toList ≠ [] ∧
      ∃ consumed, StopsBetween "Trace\nr0- -> l ,\nhalt \"open".toList items consumed
          "\"open".toList ∧
        parse .unlimited (String.ofList consumed) = .ok (tokensOf 1 items) ∧
        parse (.atMost 9) "Trace\nr0- -> l ,\nhalt \"open" =
          .error ⟨1 + newlines consumed, "\"open", "", none⟩ := by
  intro items
  have scanned :
      scan "Trace\nr0- -> l ,\nhalt \"open".toList =
        ([.trace "Trace".toList, .newline,
          .dec "r0".toList (some ⟨[' '], [' '], .positiveOnly (.word ['l']) (some [' '])⟩),
          .newline, .halt "halt".toList none, .space [' ']], "\"open".toList) := by
    decide
  have incomplete : "\"open".toList ≠ [] := by decide
  exact ⟨scanned, incomplete, parse_stops_behind_items scanned incomplete (.atMost 9) ""⟩

end CounterMachine
