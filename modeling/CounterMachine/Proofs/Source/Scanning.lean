import CounterMachine.Proofs.Sequencing
import CounterMachine.Proofs.Source.Items
import CounterMachine.Source.Tokens

/-!
Contract: which items a text consists of, and the tokens they stand for.

Owns: the condition under which the texts of several items, one behind the other, are read as
these items; that scanning finds exactly such items; and the tokens of a text that is read
whole, none of whose numerals is too long.

Does not own: what the tokens are linked to.
-/

set_option autoImplicit false

namespace CounterMachine

open Text Source

namespace Source

/-- No item starts with a quotation mark. -/
theorem Item.Fits.stops_quotation {item : Item} {rest : List Char} (fit : item.Fits rest)
    (behind : List Char) : Stops (· == '"') (item.render ++ behind) := by
  have front {word : List Char} (isRun : IsRun isWord word) (others : List Char) :
      Stops (· == '"') (word ++ others) :=
    isRun.stops_mark Item.isWord_quotation others
  cases item with
  | newline => exact stops_cons.mpr rfl
  | comment body => exact stops_cons.mpr rfl
  | space body => exact fit.1.stops_mark (by decide) behind
  | label name =>
      rw [render, List.append_assoc]
      exact front fit _
  | trace keyword => exact front fit.1.1 behind
  | init keyword beforeRegister register beforeValue digits =>
      simp only [render, List.append_assoc]
      exact front fit.1.1 _
  | inc register jump =>
      cases jump <;> simp only [render, List.append_assoc] <;> exact front fit.1 _
  | dec register jump =>
      cases jump <;> simp only [render, List.append_assoc] <;> exact front fit.1 _
  | halt keyword reason =>
      cases reason with
      | none => exact front fit.1.1 behind
      | some pair =>
          simp only [render, List.append_assoc]
          exact front fit.1.1 _
  | eval keyword beforeDescription description beforeRegister register beforeSign afterSign
      code =>
      simp only [render, List.append_assoc]
      exact front fit.1.1 _

theorem Item.Fits.render_ne_nil {item : Item} {rest : List Char} (fit : item.Fits rest) :
    item.render ≠ [] := by
  intro empty
  have stops := fit.stops_quotation ['"']
  rw [empty, List.nil_append, stops_cons] at stops
  cases stops

/-- Nothing is read from the empty text. -/
@[simp]
theorem Item.read?_nil : Item.read? [] = none := by
  cases read : Item.read? [] with
  | none => rfl
  | some found =>
      have fit := Item.read?_reads.eq_some_iff.mp read
      exact absurd (List.append_eq_nil_iff.mp fit.1.symm).1 fit.2.render_ne_nil

theorem newlines_append (first second : List Char) :
    newlines (first ++ second) = newlines first + newlines second :=
  List.count_append

@[simp]
theorem renderItems_nil : renderItems [] = [] :=
  rfl

@[simp]
theorem renderItems_cons (item : Item) (later : List Item) :
    renderItems (item :: later) = item.render ++ renderItems later :=
  List.flatMap_cons

@[simp]
theorem renderItems_append (first second : List Item) :
    renderItems (first ++ second) = renderItems first ++ renderItems second :=
  List.flatMap_append

/-- Each item fits before the texts of the items behind it. -/
def ItemsFit : List Item → List Char → Prop
  | [], _ => True
  | item :: later, rest => item.Fits (renderItems later ++ rest) ∧ ItemsFit later rest

theorem itemsFit_append {first second : List Item} {rest : List Char} :
    ItemsFit (first ++ second) rest ↔
      ItemsFit first (renderItems second ++ rest) ∧ ItemsFit second rest := by
  induction first with
  | nil => exact ⟨fun fit => ⟨trivial, fit⟩, And.right⟩
  | cons item later inductionHypothesis =>
      rw [List.cons_append, ItemsFit, ItemsFit, inductionHypothesis, renderItems_append,
        List.append_assoc, and_assoc]

theorem ItemsFit.exists_fits {items : List Item} {rest : List Char} (fit : ItemsFit items rest)
    {item : Item} (member : item ∈ items) : ∃ behind, item.Fits behind := by
  obtain ⟨before, after, rfl⟩ := List.append_of_mem member
  exact ⟨_, (itemsFit_append.mp fit).2.1⟩

private theorem read?_of_itemsFit {text rest : List Char} {item : Item} {later : List Item}
    (split : text = renderItems (item :: later) ++ rest) (fit : ItemsFit (item :: later) rest) :
    Item.read? text = some (item, renderItems later ++ rest) := by
  apply Item.read?_reads.eq_some_iff.mpr
  refine ⟨?_, fit.1⟩
  rw [split, renderItems_cons, List.append_assoc]

private theorem length_lt_of_read? {text rest : List Char} {item : Item}
    (read : Item.read? text = some (item, rest)) : rest.length < text.length := by
  have fit := Item.read?_reads.eq_some_iff.mp read
  have nonempty := List.length_pos_iff.mpr fit.2.render_ne_nil
  rw [fit.1, List.length_append]
  omega

/-- By induction on the fuel, every item taking at least one character. -/
private theorem scanWithin_eq_iff {fuel : Nat} {text rest : List Char} {items : List Item}
    (enough : text.length ≤ fuel) :
    scanWithin fuel text = (items, rest) ↔
      text = renderItems items ++ rest ∧ ItemsFit items rest ∧ Item.read? rest = none := by
  induction fuel generalizing text items with
  | zero =>
      have empty : text = [] := List.eq_nil_of_length_eq_zero (Nat.le_zero.mp enough)
      constructor
      · intro scanned
        obtain ⟨rfl, rfl⟩ := Prod.mk.inj scanned
        rw [empty]
        exact ⟨rfl, trivial, Item.read?_nil⟩
      · intro ⟨split, fit, _⟩
        cases items with
        | nil => exact Prod.ext rfl split
        | cons item later =>
            have read := read?_of_itemsFit split fit
            rw [empty, Item.read?_nil] at read
            cases read
  | succ fuel inductionHypothesis =>
      rw [scanWithin]
      cases read : Item.read? text with
      | none =>
          constructor
          · intro scanned
            obtain ⟨rfl, rfl⟩ := Prod.mk.inj scanned
            exact ⟨rfl, trivial, read⟩
          · intro ⟨split, fit, _⟩
            cases items with
            | nil => exact Prod.ext rfl split
            | cons item later =>
                rw [read?_of_itemsFit split fit] at read
                cases read
      | some found =>
          obtain ⟨first, behind⟩ := found
          have shorter := length_lt_of_read? read
          have behindEnough : behind.length ≤ fuel := by omega
          constructor
          · intro scanned
            rcases scannedBehind : scanWithin fuel behind with ⟨later, remainder⟩
            simp only [scannedBehind] at scanned
            obtain ⟨rfl, rfl⟩ := Prod.mk.inj scanned
            obtain ⟨split, fit, stuck⟩ := (inductionHypothesis behindEnough).mp scannedBehind
            have firstFits := Item.read?_reads.eq_some_iff.mp read
            rw [split] at firstFits
            refine ⟨?_, ⟨firstFits.2, fit⟩, stuck⟩
            rw [firstFits.1, renderItems_cons, List.append_assoc]
          · intro ⟨split, fit, stuck⟩
            cases items with
            | nil =>
                rw [split, renderItems_nil, List.nil_append, stuck] at read
                cases read
            | cons item later =>
                rw [read?_of_itemsFit split fit] at read
                obtain ⟨rfl, rfl⟩ := Prod.mk.inj (Option.some.inj read)
                have scannedBehind := (inductionHypothesis behindEnough).mpr ⟨rfl, fit.2, stuck⟩
                simp only [scannedBehind]

/-- Scanning splits a text into items that fit, and stops where no further item is read. -/
theorem scan_eq_iff {text rest : List Char} {items : List Item} :
    scan text = (items, rest) ↔
      text = renderItems items ++ rest ∧ ItemsFit items rest ∧ Item.read? rest = none :=
  scanWithin_eq_iff (Nat.le_refl text.length)

end Source

/-! ## Tokens -/

namespace Token

variable {Jump : Type}

def text : Token Jump → String
  | .label _ text _ | .trace text _ => text
  | .instruction body => body.text

def line : Token Jump → Int
  | .label _ _ line | .trace _ line => line
  | .instruction body => body.line

/-- The same token on another line. -/
def atLine (line : Int) : Token Jump → Token Jump
  | .label name text _ => .label name text line
  | .trace text _ => .trace text line
  | .instruction body => .instruction { body with line }

end Token

namespace Source

/-- The instruction an item stands for carries the operation, the text and the line of the
item. -/
theorem Item.token?_eq_instruction_iff {item : Item} {line : Int} {body : Instruction Target} :
    item.token? line = some (.instruction body) ↔
      ∃ operation, item.operation? = some operation ∧
        body = ⟨operation, String.ofList item.render, line, false, none⟩ := by
  unfold Item.token?
  split
  · constructor
    · intro impossible
      cases impossible
    · intro ⟨operation, impossible, _⟩
      cases impossible
  · constructor
    · intro impossible
      cases impossible
    · intro ⟨operation, impossible, _⟩
      cases impossible
  · rw [Option.map_eq_some_iff]
    constructor
    · intro ⟨operation, found, same⟩
      exact ⟨operation, found, (Token.instruction.inj same).symm⟩
    · intro ⟨operation, found, same⟩
      exact ⟨operation, found, congrArg Token.instruction same.symm⟩

/-- An item stands for the same on every line, with its own text. -/
theorem Item.token?_eq_some {item : Item} {line : Int} {token : Token Target}
    (found : item.token? line = some token) :
    token.text = String.ofList item.render ∧ token.line = line ∧
      ∀ other, item.token? other = some (token.atLine other) := by
  unfold Item.token? at found
  split at found
  · cases found
    exact ⟨rfl, rfl, fun _ => rfl⟩
  · cases found
    exact ⟨rfl, rfl, fun _ => rfl⟩
  · next notLabel notTrace =>
    obtain ⟨operation, standsFor, rfl⟩ := Option.map_eq_some_iff.mp found
    refine ⟨rfl, rfl, fun other => ?_⟩
    exact Item.token?_eq_instruction_iff.mpr ⟨operation, standsFor, rfl⟩

/-- Only line ends, comments and white space stand for nothing. -/
theorem Item.token?_eq_none {item : Item} {line : Int} (absent : item.token? line = none) :
    item = .newline ∨ (∃ body, item = .comment body) ∨ ∃ body, item = .space body := by
  cases item with
  | newline => exact .inl rfl
  | comment body => exact .inr (.inl ⟨body, rfl⟩)
  | space body => exact .inr (.inr ⟨body, rfl⟩)
  | label name => cases absent
  | trace keyword => cases absent
  | init keyword beforeRegister register beforeValue digits => cases absent
  | inc register jump => cases jump <;> cases absent
  | dec register jump => cases jump <;> cases absent
  | halt keyword reason => cases reason <;> cases absent
  | eval keyword beforeDescription description beforeRegister register beforeSign afterSign
      code => cases absent

/-- Tokens of items that start on the given line, however long their numerals are. -/
def tokensOf : Nat → List Item → List (Token Target)
  | _, [] => []
  | line, item :: later =>
      (item.token? line).toList ++ tokensOf (line + newlines item.render) later

/-- Every token is that of an item, on the first line or a later one. -/
theorem exists_item_of_mem_tokensOf {line : Nat} {items : List Item} {token : Token Target}
    (member : token ∈ tokensOf line items) :
    ∃ item ∈ items, ∃ place : Nat, line ≤ place ∧ item.token? place = some token := by
  induction items generalizing line with
  | nil => cases member
  | cons item later inductionHypothesis =>
      rcases List.mem_append.mp member with here | there
      · exact ⟨item, List.mem_cons_self, line, Nat.le_refl line, Option.mem_toList.mp here⟩
      · obtain ⟨other, inLater, place, below, found⟩ := inductionHypothesis there
        exact ⟨other, List.mem_cons_of_mem item inLater, place,
          Nat.le_of_add_right_le below, found⟩

/-- The integer literals of the item are no longer than the limit. -/
def Item.Admitted (limit : DigitLimit) (item : Item) : Prop :=
  ∀ literal ∈ item.literals, limit.admits literal.digits.length = true

theorem Item.admitted_iff {limit : DigitLimit} {item : Item} :
    item.Admitted limit ↔
      (item.literals.find? fun literal => !limit.admits literal.digits.length) = none := by
  rw [List.find?_eq_none]
  refine forall_congr' fun literal => forall_congr' fun _ => ?_
  rw [Bool.not_eq_true, Bool.not_eq_false']

/-- Items have tokens exactly if none of their literals is too long. -/
theorem tokensFrom_eq_ok_iff {limit : DigitLimit} {file : String} {line : Nat}
    {items : List Item} {tokens : List (Token Target)} :
    tokensFrom limit file line items = .ok tokens ↔
      (∀ item ∈ items, item.Admitted limit) ∧ tokens = tokensOf line items := by
  induction items generalizing line tokens with
  | nil =>
      constructor
      · intro accepted
        exact ⟨fun _ none => absurd none List.not_mem_nil, (Except.ok.inj accepted).symm⟩
      · rintro ⟨-, rfl⟩
        rfl
  | cons item later inductionHypothesis =>
      rw [tokensFrom, List.forall_mem_cons, Item.admitted_iff]
      cases item.literals.find? fun literal => !limit.admits literal.digits.length with
      | some literal =>
          constructor
          · intro impossible
            cases impossible
          · rintro ⟨⟨impossible, -⟩, -⟩
            cases impossible
      | none =>
          constructor
          · intro accepted
            obtain ⟨rest, acceptedLater, returned⟩ := bind_eq_ok.mp accepted
            obtain ⟨laterAdmitted, rfl⟩ := inductionHypothesis.mp acceptedLater
            exact ⟨⟨rfl, laterAdmitted⟩, (Except.ok.inj returned).symm⟩
          · rintro ⟨⟨-, laterAdmitted⟩, rfl⟩
            exact bind_eq_ok.mpr ⟨_, inductionHypothesis.mpr ⟨laterAdmitted, rfl⟩, rfl⟩

end Source

/-- A text is parsed exactly where it consists of items as a whole, none of which has a literal
that is too long. -/
theorem parse_eq_ok_iff {limit : DigitLimit} {source file : String}
    {tokens : List (Token Target)} :
    parse limit source file = .ok tokens ↔
      ∃ items, source.toList = renderItems items ∧ ItemsFit items [] ∧
        (∀ item ∈ items, item.Admitted limit) ∧ tokens = tokensOf 1 items := by
  unfold parse
  rcases scanned : scan source.toList with ⟨items, remainder⟩
  have parts := scan_eq_iff.mp scanned
  constructor
  · intro parsed
    cases remainder with
    | nil =>
        rw [List.append_nil] at parts
        exact ⟨items, parts.1, parts.2.1, tokensFrom_eq_ok_iff.mp parsed⟩
    | cons first behind => cases parsed
  · intro ⟨others, split, fit, admitted⟩
    have otherwise : scan source.toList = (others, []) := by
      apply scan_eq_iff.mpr
      rw [List.append_nil]
      exact ⟨split, fit, Item.read?_nil⟩
    rw [scanned] at otherwise
    obtain ⟨rfl, rfl⟩ := Prod.mk.inj otherwise
    exact tokensFrom_eq_ok_iff.mpr admitted

/-- The operation of a token is that of an item which was read, none of whose literals is too
long. -/
theorem exists_item_of_mem_parse {limit : DigitLimit} {source file : String}
    {tokens : List (Token Target)} {body : Instruction Target}
    (parsed : parse limit source file = .ok tokens) (member : .instruction body ∈ tokens) :
    ∃ item : Item, (∃ behind, item.Fits behind) ∧ item.Admitted limit ∧
      item.operation? = some body.operation := by
  obtain ⟨items, -, fit, admitted, rfl⟩ := parse_eq_ok_iff.mp parsed
  obtain ⟨item, inItems, line, -, found⟩ := exists_item_of_mem_tokensOf member
  obtain ⟨operation, standsFor, rfl⟩ := Item.token?_eq_instruction_iff.mp found
  exact ⟨item, fit.exists_fits inItems, admitted item inItems, standsFor⟩

/-- Lines are counted from one. -/
theorem one_le_line_of_mem_parse {limit : DigitLimit} {source file : String}
    {tokens : List (Token Target)} {token : Token Target}
    (parsed : parse limit source file = .ok tokens) (member : token ∈ tokens) :
    1 ≤ token.line := by
  obtain ⟨items, -, -, -, rfl⟩ := parse_eq_ok_iff.mp parsed
  obtain ⟨item, -, line, below, found⟩ := exists_item_of_mem_tokensOf member
  obtain ⟨-, stands, -⟩ := Item.token?_eq_some found
  rw [stands]
  exact Int.ofNat_le.mpr below

/-- Without a limit a text is parsed exactly where it consists of items as a whole. -/
theorem parse_unlimited_eq_ok_iff {source file : String} {tokens : List (Token Target)} :
    parse .unlimited source file = .ok tokens ↔
      ∃ items, source.toList = renderItems items ∧ ItemsFit items [] ∧
        tokens = tokensOf 1 items := by
  rw [parse_eq_ok_iff]
  refine exists_congr fun items => and_congr_right fun _ => and_congr_right fun _ => ?_
  exact and_iff_right fun _ _ _ _ => rfl

end CounterMachine
