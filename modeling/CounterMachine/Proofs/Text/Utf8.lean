import CounterMachine.Proofs.Sequencing
import CounterMachine.Text.Utf8

/-!
Contract: a text that was written is read back.

Owns: the bytes of a text character by character, the sequences of bytes that decoding takes for a
character, and hence that the bytes of a text are decoded to its characters.

Does not own: bytes that no text has, and the faults that are reported for them.
-/

set_option autoImplicit false

namespace CounterMachine.Text

/-! ## Bytes of a text -/

private theorem toList_loop (bytes : ByteArray) (index : Nat) (taken : List UInt8) :
    ByteArray.toList.loop bytes index taken = taken.reverse ++ bytes.data.toList.drop index := by
  induction index, taken using ByteArray.toList.loop.induct bytes with
  | case1 index taken inside inductionHypothesis =>
      have known : index < bytes.data.toList.length := by simpa using inside
      have first : bytes.get! index = bytes.data.toList[index] := by
        rw [ByteArray.get!, Array.getElem_toList]
        exact getElem!_pos bytes.data index inside
      rw [ByteArray.toList.loop, if_pos inside, inductionHypothesis,
        List.drop_eq_getElem_cons known, first, List.reverse_cons, List.append_assoc]
      rfl
  | case2 index taken outside =>
      have behind : bytes.data.toList.length ≤ index := by simpa using outside
      rw [ByteArray.toList.loop, if_neg outside, List.drop_eq_nil_of_le behind, List.append_nil]

theorem toList_toUTF8 (text : String) :
    text.toUTF8.toList = text.toList.flatMap String.utf8EncodeChar := by
  rw [String.toUTF8_eq_toByteArray, ByteArray.toList, toList_loop, List.drop_zero,
    ← String.utf8Encode_toList, List.utf8Encode, List.toList_data_toByteArray]
  rfl

/-! ## Sequences -/

private theorem bind_cons (character : Char) (read : Except Utf8Fault (List Char)) :
    (do let characters ← read; return character :: characters) = read.map (character :: ·) := by
  cases read with
  | ok characters => rfl
  | error fault => rfl

private theorem decodeUtf8From_single (position : Nat) {byte : UInt8} (small : byte.toNat < 0x80)
    (later : List UInt8) :
    decodeUtf8From position none (byte :: later) =
      (decodeUtf8From (position + 1) none later).map (Char.ofNat byte.toNat :: ·) := by
  have length : sequenceLength byte.toNat = 1 := if_pos small
  rw [decodeUtf8From]
  simp only [length]
  exact bind_cons _ _

/-- Value bits of a sequence with those of its next byte. -/
private def extended (value : Nat) (byte : UInt8) : Nat :=
  64 * value + (byte.toNat - 0x80)

/-- By induction on the bytes that are missing, of which none is the second. -/
private theorem decodeUtf8From_open {bytes : List UInt8} (nonempty : bytes ≠ [])
    (continuations : ∀ byte ∈ bytes, isContinuation byte.toNat = true) (later : List UInt8)
    {position start : Nat} (past : start + 1 < position) (lead value : Nat) :
    ∃ next, decodeUtf8From position (some ⟨start, lead, value, bytes.length⟩) (bytes ++ later) =
      (decodeUtf8From next none later).map (Char.ofNat (bytes.foldl extended value) :: ·) := by
  induction bytes generalizing position value with
  | nil => exact absurd rfl nonempty
  | cons byte others inductionHypothesis =>
      have accepted : (OpenSequence.mk start lead value (others.length + 1)).accepts position
          byte.toNat = true := by
        rw [OpenSequence.accepts, if_neg (Nat.ne_of_gt past)]
        exact continuations byte List.mem_cons_self
      rw [List.length_cons, List.cons_append, decodeUtf8From]
      simp only [accepted, Bool.not_true, Bool.false_eq_true, if_false]
      cases others with
      | nil =>
          simp only [List.length_nil, Nat.zero_add, if_true, bind_cons]
          exact ⟨position + 1, rfl⟩
      | cons following others =>
          have fewer : (following :: others).length + 1 - 1 = (following :: others).length := rfl
          rw [if_neg (by simp), fewer, List.foldl_cons]
          exact inductionHypothesis (by simp)
            (fun other member => continuations other (List.mem_cons_of_mem byte member))
            (Nat.lt_succ_of_lt past) (extended value byte)

/-- A sequence of two bytes or more stands for the character that its bits give. -/
private theorem decodeUtf8From_sequence (position : Nat) {lead second : UInt8}
    (bytes later : List UInt8) (length : sequenceLength lead.toNat = bytes.length + 2)
    (accepted : isSecond lead.toNat second.toNat = true)
    (continuations : ∀ byte ∈ bytes, isContinuation byte.toNat = true) :
    ∃ next, decodeUtf8From position none (lead :: second :: bytes ++ later) =
      (decodeUtf8From next none later).map
        (Char.ofNat ((second :: bytes).foldl extended (leadBits lead.toNat)) :: ·) := by
  have accepts (missing : Nat) :
      (OpenSequence.mk position lead.toNat (leadBits lead.toNat) missing).accepts (position + 1)
        second.toNat = true := by
    rw [OpenSequence.accepts, if_pos rfl]
    exact accepted
  rw [List.cons_append, List.cons_append, decodeUtf8From]
  simp only [length]
  rw [decodeUtf8From]
  simp only [accepts, Bool.not_true, Bool.false_eq_true, if_false]
  cases bytes with
  | nil =>
      simp only [List.length_nil, Nat.zero_add, if_true, bind_cons]
      exact ⟨position + 1 + 1, rfl⟩
  | cons third bytes =>
      have fewer : (third :: bytes).length + 1 - 1 = (third :: bytes).length := rfl
      rw [if_neg (by simp), fewer, List.foldl_cons]
      exact decodeUtf8From_open (by simp) continuations later (Nat.lt_succ_self _) _ _

/-! ## Bytes of a character -/

private theorem toNat_byte {value : Nat} (small : value < 256) :
    (UInt8.ofNat value).toNat = value := by
  rw [UInt8.toNat_ofNat', Nat.mod_eq_of_lt small]

private theorem isContinuation_add {bits : Nat} (small : bits < 64) :
    isContinuation (bits + 128) = true := by
  simp only [isContinuation, Bool.and_eq_true, decide_eq_true_eq]
  omega

private theorem isContinuation_ofNat {bits : Nat} (small : bits < 64) :
    isContinuation (UInt8.ofNat (bits + 128)).toNat = true := by
  rw [toNat_byte (by omega)]
  exact isContinuation_add small

private theorem extended_ofNat (value : Nat) {bits : Nat} (small : bits < 64) :
    extended value (UInt8.ofNat (bits + 128)) = 64 * value + bits := by
  have known : (UInt8.ofNat (bits + 128)).toNat = bits + 128 := toNat_byte (by omega)
  unfold extended
  omega

/-- A second byte may have any bits, but for those that would spell a code point in too many
bytes, a surrogate, or a code point past the last one. -/
private theorem isSecond_add {lead bits : Nat} (small : bits < 64)
    (three : lead = 0xE0 → 32 ≤ bits) (surrogate : lead = 0xED → bits < 32)
    (four : lead = 0xF0 → 16 ≤ bits) (past : lead = 0xF4 → bits < 16) :
    isSecond lead (bits + 128) = true := by
  simp only [isSecond, isContinuation_add small, Bool.true_and, Bool.and_eq_true,
    Bool.or_eq_true, bne_iff_ne, decide_eq_true_eq]
  omega

private theorem lead_of_two {lead : Nat} (low : 0xC2 ≤ lead) (high : lead < 0xE0) :
    sequenceLength lead = 2 ∧ leadBits lead = lead - 0xC0 := by
  unfold sequenceLength leadBits
  grind

private theorem lead_of_three {lead : Nat} (low : 0xE0 ≤ lead) (high : lead < 0xF0) :
    sequenceLength lead = 3 ∧ leadBits lead = lead - 0xE0 := by
  unfold sequenceLength leadBits
  grind

private theorem lead_of_four {lead : Nat} (low : 0xF0 ≤ lead) (high : lead < 0xF5) :
    sequenceLength lead = 4 ∧ leadBits lead = lead - 0xF0 := by
  unfold sequenceLength leadBits
  grind

section Characters

variable {value : Nat} (position : Nat) (later : List UInt8)

private theorem decodeUtf8From_one (high : value < 0x80) :
    ∃ next, decodeUtf8From position none (UInt8.ofNat value :: later) =
      (decodeUtf8From next none later).map (Char.ofNat value :: ·) := by
  have first : (UInt8.ofNat value).toNat = value := toNat_byte (by omega)
  have read := decodeUtf8From_single position (first.symm ▸ high) later
  rw [first] at read
  exact ⟨position + 1, read⟩

private theorem decodeUtf8From_two (low : 0x80 ≤ value) (high : value < 0x800) :
    ∃ next, decodeUtf8From position none
        (UInt8.ofNat (value / 64 % 32 + 192) :: UInt8.ofNat (value % 64 + 128) :: later) =
      (decodeUtf8From next none later).map (Char.ofNat value :: ·) := by
  have lowest : value % 64 < 64 := Nat.mod_lt value (by decide)
  have first : (UInt8.ofNat (value / 64 % 32 + 192)).toNat = value / 64 + 192 := by
    rw [toNat_byte (by omega)]
    omega
  obtain ⟨length, bits⟩ := lead_of_two (by omega : 0xC2 ≤ value / 64 + 192) (by omega)
  have accepted : isSecond (value / 64 + 192) (value % 64 + 128) = true :=
    isSecond_add lowest (by omega) (by omega) (by omega) (by omega)
  rw [← first] at length bits accepted
  rw [← toNat_byte (by omega : value % 64 + 128 < 256)] at accepted
  obtain ⟨next, read⟩ := decodeUtf8From_sequence position [] later length accepted (by simp)
  have whole : 64 * (value / 64 + 192 - 0xC0) + value % 64 = value := by omega
  rw [List.foldl_cons, List.foldl_nil, extended_ofNat _ lowest, bits, first, whole] at read
  exact ⟨next, read⟩

private theorem decodeUtf8From_three (low : 0x800 ≤ value) (high : value < 0x10000)
    (noSurrogate : value < 0xD800 ∨ 0xDFFF < value) :
    ∃ next, decodeUtf8From position none
        (UInt8.ofNat (value / 4096 % 16 + 224) :: UInt8.ofNat (value / 64 % 64 + 128) ::
          UInt8.ofNat (value % 64 + 128) :: later) =
      (decodeUtf8From next none later).map (Char.ofNat value :: ·) := by
  have lowest : value % 64 < 64 := Nat.mod_lt value (by decide)
  have middle : value / 64 % 64 < 64 := Nat.mod_lt _ (by decide)
  have first : (UInt8.ofNat (value / 4096 % 16 + 224)).toNat = value / 4096 + 224 := by
    rw [toNat_byte (by omega)]
    omega
  obtain ⟨length, bits⟩ := lead_of_three (by omega : 0xE0 ≤ value / 4096 + 224) (by omega)
  have accepted : isSecond (value / 4096 + 224) (value / 64 % 64 + 128) = true :=
    isSecond_add middle (by omega) (by omega) (by omega) (by omega)
  rw [← first] at length bits accepted
  rw [← toNat_byte (by omega : value / 64 % 64 + 128 < 256)] at accepted
  obtain ⟨next, read⟩ := decodeUtf8From_sequence position [UInt8.ofNat (value % 64 + 128)] later
    length accepted (by simpa using isContinuation_ofNat lowest)
  have whole :
      64 * (64 * (value / 4096 + 224 - 0xE0) + value / 64 % 64) + value % 64 = value := by
    omega
  rw [List.foldl_cons, List.foldl_cons, List.foldl_nil, extended_ofNat _ lowest,
    extended_ofNat _ middle, bits, first, whole] at read
  exact ⟨next, read⟩

private theorem decodeUtf8From_four (low : 0x10000 ≤ value) (high : value < 0x110000) :
    ∃ next, decodeUtf8From position none
        (UInt8.ofNat (value / 262144 % 8 + 240) :: UInt8.ofNat (value / 4096 % 64 + 128) ::
          UInt8.ofNat (value / 64 % 64 + 128) :: UInt8.ofNat (value % 64 + 128) :: later) =
      (decodeUtf8From next none later).map (Char.ofNat value :: ·) := by
  have lowest : value % 64 < 64 := Nat.mod_lt value (by decide)
  have middle : value / 64 % 64 < 64 := Nat.mod_lt _ (by decide)
  have upper : value / 4096 % 64 < 64 := Nat.mod_lt _ (by decide)
  have first : (UInt8.ofNat (value / 262144 % 8 + 240)).toNat = value / 262144 + 240 := by
    rw [toNat_byte (by omega)]
    omega
  obtain ⟨length, bits⟩ := lead_of_four (by omega : 0xF0 ≤ value / 262144 + 240) (by omega)
  have accepted : isSecond (value / 262144 + 240) (value / 4096 % 64 + 128) = true :=
    isSecond_add upper (by omega) (by omega) (by omega) (by omega)
  rw [← first] at length bits accepted
  rw [← toNat_byte (by omega : value / 4096 % 64 + 128 < 256)] at accepted
  obtain ⟨next, read⟩ := decodeUtf8From_sequence position
    [UInt8.ofNat (value / 64 % 64 + 128), UInt8.ofNat (value % 64 + 128)] later length accepted
    (by simpa using ⟨isContinuation_ofNat middle, isContinuation_ofNat lowest⟩)
  have whole :
      64 * (64 * (64 * (value / 262144 + 240 - 0xF0) + value / 4096 % 64) +
        value / 64 % 64) + value % 64 = value := by
    omega
  rw [List.foldl_cons, List.foldl_cons, List.foldl_cons, List.foldl_nil,
    extended_ofNat _ lowest, extended_ofNat _ middle, extended_ofNat _ upper, bits, first,
    whole] at read
  exact ⟨next, read⟩

end Characters

/-- The bytes of a character are decoded to it. -/
private theorem decodeUtf8From_encodeChar (position : Nat) (character : Char)
    (later : List UInt8) :
    ∃ next, decodeUtf8From position none (String.utf8EncodeChar character ++ later) =
      (decodeUtf8From next none later).map (character :: ·) := by
  have valid : character.toNat < 0xD800 ∨ 0xDFFF < character.toNat ∧ character.toNat < 0x110000 :=
    character.valid
  have same : Char.ofNat character.toNat = character := Char.ofNat_toNat character
  have known : character.val.toNat = character.toNat := rfl
  unfold String.utf8EncodeChar
  simp only [known]
  generalize character.toNat = value at valid same
  subst same
  split
  · exact decodeUtf8From_one position later (by omega)
  · split
    · exact decodeUtf8From_two position later (by omega) (by omega)
    · split
      · exact decodeUtf8From_three position later (by omega) (by omega) (by omega)
      · exact decodeUtf8From_four position later (by omega) (by omega)

/-! ## Texts -/

private theorem decodeUtf8From_flatMap (position : Nat) (characters : List Char) :
    decodeUtf8From position none (characters.flatMap String.utf8EncodeChar) = .ok characters := by
  induction characters generalizing position with
  | nil => rfl
  | cons character later inductionHypothesis =>
      obtain ⟨next, read⟩ := decodeUtf8From_encodeChar position character
        (later.flatMap String.utf8EncodeChar)
      rw [List.flatMap_cons, read, inductionHypothesis]
      rfl

theorem decodeUtf8_toUTF8 (text : String) : decodeUtf8 text.toUTF8.toList = .ok text.toList := by
  rw [toList_toUTF8]
  exact decodeUtf8From_flatMap 0 text.toList

/-- Every text is read from its bytes, with its line ends as line feeds. -/
theorem readText_toUTF8 (text : String) :
    readText text.toUTF8.toList = .ok (String.ofList (unifyLineEnds text.toList)) := by
  rw [readText, decodeUtf8_toUTF8]
  rfl

/-- A text without carriage returns keeps its line ends. -/
theorem unifyLineEnds_eq_self {characters : List Char} (plain : '\r' ∉ characters) :
    unifyLineEnds characters = characters := by
  induction characters with
  | nil => rfl
  | cons character later inductionHypothesis =>
      rw [List.mem_cons, not_or] at plain
      rw [unifyLineEnds, inductionHypothesis plain.2]
      · rintro following rfl
        exact absurd rfl plain.1
      · rintro rfl
        exact absurd rfl plain.1

end CounterMachine.Text
