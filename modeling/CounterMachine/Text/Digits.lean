/-!
Contract: the digits of a natural number in a positional system.

Owns: decimal and binary digits, most significant first, and their agreement with the
digits that repeated division yields. A number is split in halves of equally many places,
so that the digits of a long number come from few long divisions.
-/

set_option autoImplicit false

namespace CounterMachine.Text

/-- Digits of a value below `base ^ 2 ^ level` in `2 ^ level` places, before `rest`. -/
def placedDigits (base : Nat) : Nat → Nat → List Char → List Char
  | 0, value, rest => Nat.digitChar value :: rest
  | level + 1, value, rest =>
      let half := Nat.pow base (Nat.pow 2 level)
      placedDigits base level (value / half) (placedDigits base level (value % half) rest)

/-- Digits without leading zeros; zero keeps one. -/
def withoutZeros (digits : List Char) : List Char :=
  match digits.dropWhile (· == '0') with
  | [] => ['0']
  | digits => digits

/-- Three binary places take at most one decimal place. -/
def decimalDigits (value : Nat) : List Char :=
  withoutZeros (placedDigits 10 ((value.log2 / 3 + 1).log2 + 1) value [])

def binaryDigits (value : Nat) : List Char :=
  withoutZeros (placedDigits 2 (value.log2.log2 + 1) value [])

/-! ## Agreement with repeated division -/

/-- The lowest digits of a value, as many as there are places. -/
private def padded (base : Nat) : Nat → Nat → List Char
  | 0, _ => []
  | places + 1, value => padded base places (value / base) ++ [Nat.digitChar (value % base)]

private theorem padded_add (base left right value : Nat) :
    padded base (left + right) value =
      padded base left (value / Nat.pow base right) ++
        padded base right (value % Nat.pow base right) := by
  induction right generalizing value with
  | zero => simp [padded]
  | succ right inductionHypothesis =>
      have quotient : value / base / Nat.pow base right =
          value / (Nat.pow base right * base) := by
        rw [Nat.div_div_eq_div_mul, Nat.mul_comm]
      have middle : value % (Nat.pow base right * base) / base =
          value / base % Nat.pow base right := by
        rw [Nat.mul_comm, Nat.mod_mul_right_div_self]
      have last : value % (Nat.pow base right * base) % base = value % base := by
        rw [Nat.mul_comm, Nat.mod_mul_right_mod]
      show padded base (left + right + 1) value =
        padded base left (value / (Nat.pow base right * base)) ++
          padded base (right + 1) (value % (Nat.pow base right * base))
      rw [padded, padded, inductionHypothesis, quotient, middle, last, List.append_assoc]

private theorem placedDigits_eq_padded (base level value : Nat) (rest : List Char)
    (small : value < Nat.pow base (Nat.pow 2 level)) :
    placedDigits base level value rest = padded base (Nat.pow 2 level) value ++ rest := by
  induction level generalizing value rest with
  | zero =>
      have below : value < base := by
        have : Nat.pow base (Nat.pow 2 0) = base := Nat.pow_one base
        omega
      show Nat.digitChar value :: rest = padded base (0 + 1) value ++ rest
      simp [padded, Nat.mod_eq_of_lt below]
  | succ level inductionHypothesis =>
      have double : Nat.pow 2 (level + 1) = Nat.pow 2 level + Nat.pow 2 level :=
        Nat.mul_two _
      have square : Nat.pow base (Nat.pow 2 level + Nat.pow 2 level) =
          Nat.pow base (Nat.pow 2 level) * Nat.pow base (Nat.pow 2 level) :=
        Nat.pow_add base _ _
      rw [double, square] at small
      have positive : 0 < Nat.pow base (Nat.pow 2 level) :=
        Nat.pos_of_ne_zero fun zero => by
          rw [zero, Nat.zero_mul] at small
          exact Nat.not_lt_zero value small
      rw [placedDigits, inductionHypothesis _ _ (Nat.div_lt_of_lt_mul small),
        inductionHypothesis _ _ (Nat.mod_lt value positive), double, padded_add,
        List.append_assoc]

private theorem digitChar_beq_zero (digit : Nat) (small : digit < 10) :
    (Nat.digitChar digit == '0') = decide (digit = 0) := by
  revert digit
  decide

private theorem dropWhile_padded (base places value : Nat) (low : 1 < base) (high : base ≤ 10)
    (small : value < Nat.pow base places) :
    (padded base places value).dropWhile (· == '0') =
      if value = 0 then [] else Nat.toDigits base value := by
  induction places generalizing value with
  | zero =>
      have zero : value = 0 := Nat.lt_one_iff.mp small
      simp [padded, zero]
  | succ places inductionHypothesis =>
      have digit : value % base < 10 := Nat.lt_of_lt_of_le (Nat.mod_lt _ (by omega)) high
      have quotient : value / base < Nat.pow base places :=
        Nat.div_lt_of_lt_mul (Nat.mul_comm _ _ ▸ small)
      rw [padded, List.dropWhile_append, inductionHypothesis _ quotient]
      by_cases below : value < base
      · rw [Nat.div_eq_of_lt below, Nat.mod_eq_of_lt below]
        by_cases zero : value = 0
        · subst zero
          rfl
        · have kept := digitChar_beq_zero value (by omega)
          simp [zero, List.dropWhile, kept, Nat.toDigits_of_lt_base below]
      · have positive : value / base ≠ 0 := by
          have := Nat.div_pos (Nat.le_of_not_lt below) (Nat.lt_trans Nat.zero_lt_one low)
          omega
        have nonzero : value ≠ 0 := fun zero => below (by omega)
        simp [positive, nonzero, Nat.toDigits_ne_nil,
          Nat.toDigits_of_base_le low (Nat.le_of_not_lt below)]

private theorem withoutZeros_placedDigits (base level value : Nat) (low : 1 < base)
    (high : base ≤ 10) (small : value < Nat.pow base (Nat.pow 2 level)) :
    withoutZeros (placedDigits base level value []) = Nat.toDigits base value := by
  rw [withoutZeros, placedDigits_eq_padded base level value [] small, List.append_nil,
    dropWhile_padded base _ value low high small]
  by_cases zero : value = 0
  · simp [zero, Nat.toDigits_of_lt_base (Nat.lt_trans Nat.zero_lt_one low)]
  · simp only [zero, if_false]
    split
    · next empty => exact absurd empty Nat.toDigits_ne_nil
    · rfl

theorem binaryDigits_eq (value : Nat) : binaryDigits value = Nat.toDigits 2 value :=
  withoutZeros_placedDigits 2 _ value (by decide) (by decide) <|
    Nat.lt_of_lt_of_le Nat.lt_log2_self <|
      Nat.pow_le_pow_right (by decide) Nat.lt_log2_self

theorem decimalDigits_eq (value : Nat) : decimalDigits value = Nat.toDigits 10 value := by
  refine withoutZeros_placedDigits 10 _ value (by decide) (by decide) ?_
  have places : value.log2 / 3 + 1 ≤ Nat.pow 2 ((value.log2 / 3 + 1).log2 + 1) :=
    Nat.le_of_lt Nat.lt_log2_self
  have thirds : value.log2 + 1 ≤ 3 * (value.log2 / 3 + 1) := by omega
  have eights : Nat.pow 2 (3 * (value.log2 / 3 + 1)) = Nat.pow 8 (value.log2 / 3 + 1) :=
    Nat.pow_mul 2 3 _
  calc value < Nat.pow 2 (value.log2 + 1) := Nat.lt_log2_self
    _ ≤ Nat.pow 2 (3 * (value.log2 / 3 + 1)) := Nat.pow_le_pow_right (by decide) thirds
    _ = Nat.pow 8 (value.log2 / 3 + 1) := eights
    _ ≤ Nat.pow 10 (value.log2 / 3 + 1) := Nat.pow_le_pow_left (by decide) _
    _ ≤ _ := Nat.pow_le_pow_right (by decide) places

end CounterMachine.Text
