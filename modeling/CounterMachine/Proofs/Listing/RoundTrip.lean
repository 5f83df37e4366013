import CounterMachine.Proofs.Agreement
import CounterMachine.Proofs.Listing.Written

/-!
Contract: what the listing of a program compiles to.

Owns: the program that a listing is read and linked as; that it is the listed one, labelled by
place, when no jump goes to a negative index, whether or not it was compiled from a text; and the
exact condition under which a compiled program agrees with it.

Does not own: the text of the listing.

## What becomes of a jump

A listing writes absolute indices. An index inside or behind the program is a numeral, which
is read as an index again; a negative index carries a sign, and what carries a sign is read as
an offset. Before the first instruction both are the same, and nowhere else.
-/

set_option autoImplicit false

namespace CounterMachine

open Text Source

namespace Operation

variable {Jump Other Last : Type}

/-- The operation with its jump operands changed. -/
def map (change : Jump → Other) : Operation Jump → Operation Other
  | .init register value => .init register value
  | .inc register next => .inc register (change next)
  | .dec register onPositive onZero => .dec register (change onPositive) (change onZero)
  | .halt reason => .halt reason
  | .eval description register code => .eval description register code

/-- An operation whose operands are kept is kept as a whole. -/
theorem map_eq_self {change : Jump → Jump} {operation : Operation Jump}
    (kept : ∀ target ∈ operation.operands, change target = target) :
    operation.map change = operation := by
  cases operation with
  | init register value => rfl
  | inc register next =>
      rw [map, kept next List.mem_cons_self]
  | dec register onPositive onZero =>
      have zeroKept := kept onZero (List.mem_cons_of_mem _ List.mem_cons_self)
      rw [map, kept onPositive List.mem_cons_self, zeroKept]
  | halt reason => rfl
  | eval description register code => rfl

theorem mapsTo_map {first : Jump → Other} {second : Jump → Last} {related : Other → Last → Prop}
    (each : ∀ jump, related (first jump) (second jump)) (operation : Operation Jump) :
    (operation.map first).MapsTo related (operation.map second) := by
  cases operation with
  | init register value => exact .init register value
  | inc register next => exact .inc register (each next)
  | dec register onPositive onZero => exact .dec register (each onPositive) (each onZero)
  | halt reason => exact .halt reason
  | eval description register code => exact .eval description register code

/-- An operation keeps its action exactly when every place it may go to is kept. -/
theorem action_map_eq_iff {change : Jump → Jump} {following : Jump}
    (kept : change following = following) {operation : Operation Jump} :
    (operation.map change).action = operation.action ↔
      ∀ target ∈ operation.jumpTargets following, change target = target := by
  cases operation with
  | init register value =>
      simp only [map, action, jumpTargets, List.mem_singleton, forall_eq, kept]
  | inc register next =>
      simp only [map, action, jumpTargets, List.mem_singleton, forall_eq, inc.injEq, true_and]
  | dec register onPositive onZero =>
      simp only [map, action, jumpTargets, List.mem_cons, List.not_mem_nil, or_false,
        forall_eq_or_imp, forall_eq, dec.injEq, true_and]
  | halt reason =>
      simp only [map, action, jumpTargets, List.not_mem_nil, false_implies, implies_true]
  | eval description register code =>
      simp only [map, action, jumpTargets, List.mem_singleton, forall_eq, kept]

end Operation

/-! ## Reading a listing -/

/-- The index that a written index is read as, in the instruction at `index`. -/
def reread (index : Nat) (target : Int) : Int :=
  if target < 0 then index + target else target

/-- Instructions that the listing of a program from an index and a line on is read as. -/
def Program.rereadFrom : Nat → Nat → Program → Program
  | _, _, [] => []
  | index, line, body :: later =>
      ⟨body.operation.map (reread index), body.operation.text, line, false,
        some (String.ofList (lineLabel index))⟩ ::
        Program.rereadFrom (index + 1) (line + newlines body.operation.text.toList + 1) later

private theorem operation?_item {operation : Operation Int} (listable : operation.Listable) :
    operation.item.operation? =
      some (operation.map fun target => (writtenTarget target).target) := by
  cases operation with
  | init register value =>
      simp only [Operation.item, Item.operation?, lowered_of_isName listable.1,
        numeralValue_decimalDigits, Int.toNat_of_nonneg listable.2, Operation.map]
  | inc register next =>
      simp only [Operation.item, Item.operation?, lowered_of_isName listable.1, Operation.map]
  | dec register onPositive onZero =>
      simp only [Operation.item, Item.operation?, lowered_of_isName listable.1,
        WrittenArms.targets, Operation.map]
  | halt reason =>
      simp only [Operation.item, Item.operation?, String.ofList_toList, Operation.map]
  | eval description register code =>
      simp only [Operation.item, Item.operation?, lowered_of_isName listable.2.1,
        listable.2.2.2, String.ofList_toList, Operation.map]

/-- A numeral is an index, and a number with a sign is an offset. -/
private theorem resolveTarget_writtenTarget (labels : Table Nat) (size index : Nat)
    (line target : Int) :
    resolveTarget .unlimited labels size index line (writtenTarget target).target =
      .ok (reread index target) := by
  cases target with
  | ofNat value =>
      have digits : (lowered (decimalDigits value)).toList = decimalDigits value := by
        rw [lowered, lower_decimalDigits, String.toList_ofList]
      have nonnegative : ¬ Int.ofNat value < 0 := Int.not_lt.mpr (Int.natCast_nonneg value)
      rw [writtenTarget, WrittenTarget.target, resolveTarget, digits,
        if_pos (isNumeral_decimalDigits value), readNumeral?_unlimited,
        numeralValue_decimalDigits, reread, if_neg nonnegative]
      rfl
  | negSucc below =>
      rw [writtenTarget, WrittenTarget.target, resolveTarget, numeralValue_decimalDigits, reread,
        if_pos (Int.negSucc_lt_zero below)]
      rfl

/-! ## Attaching and linking -/

/-- Instructions of a listing before their operands are resolved. -/
private def attachedFrom : Nat → Nat → Program → List (Instruction Target)
  | _, _, [] => []
  | index, line, body :: later =>
      ⟨body.operation.map fun target => (writtenTarget target).target,
        body.operation.text, line, false, some (String.ofList (lineLabel index))⟩ ::
        attachedFrom (index + 1) (line + newlines body.operation.text.toList + 1) later

private theorem newlines_label (index : Nat) :
    newlines (Item.render (.label (lineLabel index))) = 0 := by
  apply List.count_eq_zero.mpr
  intro member
  rcases List.mem_append.mp member with inLabel | isColon
  · have word := (isRun_lineLabel index).2 _ inLabel
    exact absurd word (by decide)
  · exact absurd (List.mem_singleton.mp isColon) (by decide)

/-- Tokens of one line, before those of the later lines. -/
private theorem tokensOf_lineItems {operation : Operation Int} (listable : operation.Listable)
    (index line : Nat) (later : List Item) :
    tokensOf line (lineItems index operation ++ later) =
      .label (lowered (lineLabel index)) (String.ofList (lineLabel index ++ [':'])) line ::
        .instruction ⟨operation.map fun target => (writtenTarget target).target, operation.text,
          line, false, none⟩ ::
        tokensOf (line + newlines operation.text.toList + 1) later := by
  have label : Item.token? line (.label (lineLabel index)) =
      some (.label (lowered (lineLabel index)) (String.ofList (lineLabel index ++ [':'])) line) :=
    rfl
  have space (place : Int) : Item.token? place (.space [' ']) = none := rfl
  have newline (place : Int) : Item.token? place .newline = none := rfl
  have oneLine : newlines (Item.render .newline) = 1 := rfl
  have noLine : newlines (Item.render (.space [' '])) = 0 := rfl
  have body : operation.item.token? line = some (.instruction
      ⟨operation.map fun target => (writtenTarget target).target, operation.text, line, false,
        none⟩) := by
    apply Item.token?_eq_instruction_iff.mpr
    refine ⟨_, operation?_item listable, ?_⟩
    rw [Operation.render_item listable, String.ofList_toList]
  simp only [lineItems, List.cons_append, List.nil_append, tokensOf, label, newlines_label,
    space, noLine, newline, oneLine, Nat.add_zero, body, Operation.render_item listable,
    Option.toList_some, Option.toList_none]

private theorem lowered_lineLabel (index : Nat) :
    lowered (lineLabel index) = String.ofList (lineLabel index) := by
  have kept := lowered_of_isName (isName_lineLabel index)
  rwa [String.toList_ofList] at kept

private theorem attach_tokensOf (program : Program)
    (listable : ∀ body ∈ program, body.operation.Listable) (index line : Nat) :
    attach none false (tokensOf line (program.itemsFrom index)) =
      attachedFrom index line program := by
  induction program generalizing index line with
  | nil => rfl
  | cons body later inductionHypothesis =>
      have rest := inductionHypothesis
        (fun other member => listable other (List.mem_cons_of_mem body member)) (index + 1)
      rw [Program.itemsFrom, tokensOf_lineItems (listable body List.mem_cons_self),
        lowered_lineLabel, attach, attach, rest, attachedFrom]

private theorem linkedFrom_attachedFrom (labels : Table Nat) (size : Nat) (program : Program)
    (index line : Nat) :
    LinkedFrom .unlimited labels size index (attachedFrom index line program)
      (program.rereadFrom index line) := by
  induction program generalizing index line with
  | nil => exact .nil index
  | cons body later inductionHypothesis =>
      refine .cons (Operation.mapsTo_map ?_ body.operation) (inductionHypothesis _ _)
      intro target
      exact resolveTarget_writtenTarget labels size index line target

/-- The listing of listable operations is read without fail. -/
theorem compile_text {program : Program}
    (listable : ∀ body ∈ program, body.operation.Listable) (file : String) :
    compile .unlimited program.text file = .ok (program.rereadFrom 0 1) := by
  have parsed : parse .unlimited program.text file = .ok (tokensOf 1 (program.itemsFrom 0)) :=
    parse_unlimited_eq_ok_iff.mpr ⟨program.itemsFrom 0,
      (renderItems_itemsFrom program listable 0).symm, itemsFit_itemsFrom program listable 0, rfl⟩
  have linked :
      link .unlimited (tokensOf 1 (program.itemsFrom 0)) = .ok (program.rereadFrom 0 1) := by
    unfold link
    rw [attach_tokensOf program listable]
    exact linkFrom_eq_ok_iff.mpr (linkedFrom_attachedFrom _ _ program 0 1)
  unfold compile
  rw [mapError_eq_ok.mpr parsed, ok_bind]
  exact mapError_eq_ok.mpr linked

/-! ## Agreement with the listed program -/

private theorem length_rereadFrom (program : Program) (index line : Nat) :
    (program.rereadFrom index line).length = program.length := by
  induction program generalizing index line with
  | nil => rfl
  | cons body later inductionHypothesis =>
      rw [Program.rereadFrom, List.length_cons, List.length_cons, inductionHypothesis]

private theorem operation_rereadFrom (program : Program) (start line index : Nat)
    (inside : index < program.length) (inReread : index < (program.rereadFrom start line).length) :
    ((program.rereadFrom start line)[index]).operation =
      program[index].operation.map (reread (start + index)) := by
  induction program generalizing start line index with
  | nil => cases inside
  | cons body later inductionHypothesis =>
      cases index with
      | zero => rfl
      | succ index =>
          have insideLater : index < later.length := Nat.lt_of_succ_lt_succ inside
          have places : start + (index + 1) = start + 1 + index := by omega
          rw [places]
          exact inductionHypothesis (start + 1) _ index insideLater
            (by rw [length_rereadFrom]; exact insideLater)

/-- Only a negative index is read as another, and only behind the first instruction. -/
theorem reread_eq_self_iff {index : Nat} {target : Int} :
    reread index target = target ↔ 0 < index → 0 ≤ target := by
  unfold reread
  split
  · omega
  · omega

private theorem label_rereadFrom (program : Program) (start line index : Nat)
    (inReread : index < (program.rereadFrom start line).length) :
    (program.rereadFrom start line)[index].label = some ("l" ++ decimal (start + index : Nat)) ∧
      (program.rereadFrom start line)[index].trace = false := by
  induction program generalizing start line index with
  | nil => cases inReread
  | cons body later inductionHypothesis =>
      cases index with
      | zero =>
          have written : String.ofList (lineLabel start) = "l" ++ decimal (start : Int) := by
            rw [← String.toList_inj, String.toList_append, toList_decimal_natCast,
              String.toList_ofList]
            rfl
          exact ⟨congrArg some written, rfl⟩
      | succ index =>
          have places : start + (index + 1) = start + 1 + index := by omega
          rw [places]
          exact inductionHypothesis (start + 1) _ index (Nat.lt_of_succ_lt_succ inReread)

/-- Whatever listable operations a program consists of, as long as it jumps to no negative
index: its listing is read to the end, and compiles to the same operations, reasons of halts
included, labelled by place and untraced. -/
theorem compile_listing_of_listable {program : Program}
    (listable : ∀ body ∈ program, body.operation.Listable)
    (nonnegative : ∀ body ∈ program, ∀ target ∈ body.operation.operands, 0 ≤ target)
    (file : String) :
    ∃ text tokens again,
      program.listing .unlimited = .ok text ∧ (scan text.toList).2 = [] ∧
        parse .unlimited text file = .ok tokens ∧
        compile .unlimited text file = .ok again ∧ again.agrees program = true ∧
        ∀ (index : Nat) (inAgain : index < again.length) (inside : index < program.length),
          again[index].operation = program[index].operation ∧
            again[index].label = some ("l" ++ decimal index) ∧ again[index].trace = false := by
  have length := length_rereadFrom program 0 1
  have operations (index : Nat) (inReread : index < (program.rereadFrom 0 1).length)
      (inside : index < program.length) :
      ((program.rereadFrom 0 1)[index]).operation = program[index].operation := by
    rw [operation_rereadFrom program 0 1 index inside, Nat.zero_add]
    apply Operation.map_eq_self
    intro target member
    apply reread_eq_self_iff.mpr
    intro _
    exact nonnegative _ (List.getElem_mem inside) target member
  have scanned : scan program.text.toList = (program.itemsFrom 0, []) := by
    apply scan_eq_iff.mpr
    rw [List.append_nil]
    exact ⟨(renderItems_itemsFrom program listable 0).symm, itemsFit_itemsFrom program listable 0,
      Item.read?_nil⟩
  have compiled := compile_text listable file
  obtain ⟨tokens, parsed, -⟩ := bind_eq_ok.mp compiled
  refine ⟨program.text, tokens, program.rereadFrom 0 1, program.listing_unlimited,
    congrArg Prod.snd scanned, mapError_eq_ok.mp parsed, compiled, ?_, ?_⟩
  · rw [Program.agrees_iff]
    refine ⟨length, fun index inReread inside => ?_⟩
    rw [operations index inReread inside]
  · intro index inReread inside
    obtain ⟨label, untraced⟩ := label_rereadFrom program 0 1 index inReread
    rw [Nat.zero_add] at label
    exact ⟨operations index inReread inside, label, untraced⟩

/-- Registers named like keywords, jumps behind the end, and quotations and code with the
characters that end lines, comments and statements elsewhere. -/
def deceptiveProgram : Program :=
  [⟨.inc "init" 2, "", 0, true, some "start"⟩,
    ⟨.dec "halt" 0 99, "eval", 7, true, none⟩,
    ⟨.init "trace" 10, "", -1, false, none⟩,
    ⟨.eval "a; // b\nc:" "\u00e9val" "r0 // \"x\"\n+ 1 :", "", 0, false, none⟩,
    ⟨.inc "007" 1, "", 0, false, none⟩,
    ⟨.halt "l9: trace\n// ;", "", 0, false, none⟩]

theorem compile_listing_of_listable_deceptive :
    (∀ body ∈ deceptiveProgram, body.operation.Listable) ∧
      (∀ body ∈ deceptiveProgram, ∀ target ∈ body.operation.operands, 0 ≤ target) ∧
      ∃ text again,
        deceptiveProgram.listing .unlimited = .ok text ∧
          compile .unlimited text = .ok again ∧ again.agrees deceptiveProgram = true := by
  have listable : ∀ body ∈ deceptiveProgram, body.operation.Listable := by decide
  have nonnegative :
      ∀ body ∈ deceptiveProgram, ∀ target ∈ body.operation.operands, 0 ≤ target := by decide
  obtain ⟨text, tokens, again, listed, -, -, compiled, same, -⟩ :=
    compile_listing_of_listable listable nonnegative ""
  exact ⟨listable, nonnegative, text, again, listed, compiled, same⟩

/-- The listing of a compiled program compiles again, and to the same program unless an
instruction behind the first may jump to a negative index. -/
theorem compile_listing_agrees_iff {source file : String} {program : Program}
    (compiled : compile .unlimited source file = .ok program) (listingFile : String) :
    ∃ text again, program.listing .unlimited = .ok text ∧
      compile .unlimited text listingFile = .ok again ∧
      (again.agrees program = true ↔
        ∀ (index : Nat) (inside : index < program.length), 0 < index →
          ∀ target ∈ program[index].operation.jumpTargets (index + 1 : Int), 0 ≤ target) := by
  have listable := listable_of_compile compiled
  refine ⟨program.text, program.rereadFrom 0 1, program.listing_unlimited,
    compile_text listable listingFile, ?_⟩
  have following (index : Nat) : reread index (index + 1) = index + 1 :=
    reread_eq_self_iff.mpr fun _ => by omega
  rw [Program.agrees_iff]
  constructor
  · intro ⟨length, same⟩ index inside behindFirst target member
    have action := same index (by rw [length]; exact inside) inside
    rw [operation_rereadFrom program 0 1 index inside, Nat.zero_add,
      Operation.action_map_eq_iff (following index)] at action
    exact reread_eq_self_iff.mp (action target member) behindFirst
  · intro nonnegative
    refine ⟨length_rereadFrom program 0 1, ?_⟩
    intro index inReread inside
    rw [operation_rereadFrom program 0 1 index inside, Nat.zero_add,
      Operation.action_map_eq_iff (following index)]
    intro target member
    apply reread_eq_self_iff.mpr
    intro behindFirst
    exact nonnegative index inside behindFirst target member

/-- An offset may lead out of the program, as long as it leads forward. -/
theorem compile_listing_agrees_behindEnd :
    ∃ (program : Program) (text : String) (again : Program),
      compile .unlimited "halt\nr0+ -> +7" = .ok program ∧
        program.listing .unlimited = .ok text ∧ compile .unlimited text = .ok again ∧
        again.agrees program = true := by
  have compiled : compile .unlimited "halt\nr0+ -> +7" =
      .ok [⟨.halt "Halt", "halt", 1, false, none⟩,
        ⟨.inc "r0" 8, "r0+ -> +7", 2, false, none⟩] := rfl
  obtain ⟨text, again, listed, read, same⟩ := compile_listing_agrees_iff compiled ""
  refine ⟨_, text, again, compiled, listed, read, same.mpr ?_⟩
  decide

/-- An offset that leads before the first instruction is listed as another offset. -/
theorem compile_listing_negativeIndex :
    ∃ program again : Program,
      compile .unlimited "halt\nr0+ -> -5" = .ok program ∧
        program.listing .unlimited = .ok "l0: halt \"Halt\"\nl1: r0+ -> -4\n" ∧
        compile .unlimited "l0: halt \"Halt\"\nl1: r0+ -> -4\n" = .ok again ∧
        again.agrees program = false :=
  ⟨[⟨.halt "Halt", "halt", 1, false, none⟩, ⟨.inc "r0" (-4), "r0+ -> -5", 2, false, none⟩],
    [⟨.halt "Halt", "halt \"Halt\"", 1, false, some "l0"⟩,
      ⟨.inc "r0" (-3), "r0+ -> -4", 2, false, some "l1"⟩], rfl, rfl, rfl, rfl⟩

end CounterMachine
