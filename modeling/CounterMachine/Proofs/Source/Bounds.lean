import CounterMachine.Proofs.Limits
import CounterMachine.Proofs.Linking
import CounterMachine.Proofs.Source.Scanning

/-!
Contract: the numbers in a program that was compiled under a limit on digits.

Owns: that the numbers a text is parsed with are within the limit, and which numbers of the
linked program still are.

Does not own: what is done with longer ones. A jump forward may lead to a place whose number has
a digit more than the offset that was written.
-/

set_option autoImplicit false

namespace CounterMachine

open Text Source

variable {limit : DigitLimit}

/-! ## Numbers of items -/

namespace Source

private theorem WrittenTarget.within {target : WrittenTarget} {after : List Char}
    (admitted : ∀ literal ∈ target.literals after, limit.admits literal.digits.length = true) :
    ∀ number ∈ target.target.numbers, limit.fits number = true := by
  cases target with
  | word letters => exact fun _ member => absurd member List.not_mem_nil
  | offset negative digits =>
      have fits : limit.fits (numeralValue digits) = true :=
        DigitLimit.fits_numeralValue (admitted _ List.mem_cons_self)
      intro number member
      cases negative with
      | false =>
          rw [List.mem_singleton.mp member]
          exact fits
      | true =>
          rw [List.mem_singleton.mp member, DigitLimit.fits_neg]
          exact fits

private theorem nextTarget_within (one : limit.fits 1 = true) :
    ∀ number ∈ nextTarget.numbers, limit.fits number = true := by
  intro number member
  rw [List.mem_singleton.mp member]
  exact one

private theorem WrittenArms.within (one : limit.fits 1 = true) {arms : WrittenArms}
    (admitted : ∀ literal ∈ arms.literals, limit.admits literal.digits.length = true) :
    ∀ number ∈ arms.targets.1.numbers ++ arms.targets.2.numbers, limit.fits number = true := by
  intro number member
  rw [List.mem_append] at member
  cases arms with
  | both onPositive beforeComma afterComma onZero =>
      rcases member with positive | zero
      · exact WrittenTarget.within (fun literal inLiterals =>
          admitted literal (List.mem_append_left _ inLiterals)) number positive
      · exact WrittenTarget.within (fun literal inLiterals =>
          admitted literal (List.mem_append_right _ inLiterals)) number zero
  | zeroOnly afterComma onZero =>
      rcases member with positive | zero
      · exact nextTarget_within one number positive
      · exact WrittenTarget.within admitted number zero
  | positiveOnly onPositive beforeComma =>
      rcases member with positive | zero
      · cases beforeComma with
        | none => exact WrittenTarget.within admitted number positive
        | some gap => exact WrittenTarget.within admitted number positive
      · exact nextTarget_within one number zero

/-- By cases on the item: its numbers are literals, or the offset to the next instruction. -/
theorem Item.within (one : limit.fits 1 = true) {item : Item} {operation : Operation Target}
    (admitted : ∀ literal ∈ item.literals, limit.admits literal.digits.length = true)
    (standsFor : item.operation? = some operation) : operation.Within limit := by
  cases item with
  | newline => cases standsFor
  | comment body => cases standsFor
  | space body => cases standsFor
  | label name => cases standsFor
  | trace keyword => cases standsFor
  | init keyword beforeRegister register beforeValue digits =>
      rw [← Option.some.inj standsFor]
      intro number member
      rw [List.mem_singleton.mp member]
      exact DigitLimit.fits_numeralValue (admitted _ List.mem_cons_self)
  | inc register jump =>
      cases jump with
      | none =>
          rw [← Option.some.inj standsFor]
          exact nextTarget_within one
      | some arrow =>
          rw [← Option.some.inj standsFor]
          exact WrittenTarget.within admitted
  | dec register jump =>
      cases jump with
      | none =>
          rw [← Option.some.inj standsFor]
          intro number member
          rcases List.mem_append.mp member with positive | zero
          · exact nextTarget_within one number positive
          · exact nextTarget_within one number zero
      | some arrow =>
          rw [← Option.some.inj standsFor]
          exact WrittenArms.within one admitted
  | halt keyword reason =>
      cases reason with
      | none =>
          rw [← Option.some.inj standsFor]
          exact fun _ member => absurd member List.not_mem_nil
      | some pair =>
          rw [← Option.some.inj standsFor]
          exact fun _ member => absurd member List.not_mem_nil
  | eval keyword beforeDescription description beforeRegister register beforeSign afterSign
      code =>
      rw [← Option.some.inj standsFor]
      exact fun _ member => absurd member List.not_mem_nil

end Source

/-! ## Numbers of tokens -/

theorem within_of_parse (one : limit.fits 1 = true) {source file : String}
    {tokens : List (Token Target)} {body : Instruction Target}
    (parsed : parse limit source file = .ok tokens) (member : .instruction body ∈ tokens) :
    body.operation.Within limit := by
  obtain ⟨item, -, admitted, standsFor⟩ := exists_item_of_mem_parse parsed member
  exact Item.within one admitted standsFor

/-! ## Numbers of linked programs -/

/-- A negative place is nearer to zero than the offset that leads to it. -/
private theorem fits_of_resolveTarget {labels : Table Nat} {size index : Nat} {line : Int}
    {target : Target} {place : Int}
    (resolved : resolveTarget limit labels size index line target = .ok place)
    (fitting : ∀ number ∈ target.numbers, limit.fits number = true) (negative : place < 0) :
    limit.fits place = true := by
  cases target with
  | number offset =>
      have same : (index : Int) + offset = place := Except.ok.inj resolved
      exact DigitLimit.fits_of_natAbs_le (by omega) (fitting offset List.mem_cons_self)
  | name text =>
      rw [resolveTarget] at resolved
      split at resolved
      · split at resolved
        · cases resolved
          omega
        · cases resolved
      · split at resolved
        · cases resolved
        · split at resolved
          · cases resolved
            omega
          · cases resolved

/-- The initial values of a compiled program are within the limit, and so are the places in
front of the program that its jumps lead to. -/
theorem fits_of_compile (one : limit.fits 1 = true) {source file : String} {program : Program}
    (compiled : compile limit source file = .ok program) {body : Instruction Int}
    (member : body ∈ program) :
    (∀ register value, body.operation = .init register value → limit.fits value = true) ∧
      ∀ target ∈ body.operation.operands, target < 0 → limit.fits target = true := by
  obtain ⟨tokens, original, parsed, inTokens, -, labels, size, place, line, maps⟩ :=
    exists_token_of_mem_compile compiled member
  have within := within_of_parse one parsed inTokens
  unfold Operation.Within at within
  generalize original.operation = operation at within maps
  generalize body.operation = linked at maps ⊢
  cases maps with
  | init register value =>
      refine ⟨?_, fun _ none => absurd none List.not_mem_nil⟩
      rintro _ _ ⟨⟩
      exact within value List.mem_cons_self
  | inc register resolved =>
      refine ⟨fun _ _ impossible => (nomatch impossible), ?_⟩
      intro target inOperands negative
      rw [List.mem_singleton.mp inOperands] at negative ⊢
      exact fits_of_resolveTarget resolved within negative
  | dec register positiveResolved zeroResolved =>
      refine ⟨fun _ _ impossible => (nomatch impossible), ?_⟩
      intro target inOperands negative
      rcases List.mem_cons.mp inOperands with rfl | inRest
      · exact fits_of_resolveTarget positiveResolved
          (fun number inNumbers => within number (List.mem_append_left _ inNumbers)) negative
      · rw [List.mem_singleton.mp inRest] at negative ⊢
        exact fits_of_resolveTarget zeroResolved
          (fun number inNumbers => within number (List.mem_append_right _ inNumbers)) negative
  | halt reason =>
      exact ⟨fun _ _ impossible => (nomatch impossible),
        fun _ none => absurd none List.not_mem_nil⟩
  | eval description register code =>
      exact ⟨fun _ _ impossible => (nomatch impossible),
        fun _ none => absurd none List.not_mem_nil⟩

end CounterMachine
