import CounterMachine.Expression.Value
import CounterMachine.Proofs.Source.Lexemes
import CounterMachine.Proofs.Text.Decimal
import CounterMachine.Source.Item

/-!
Contract: the language of expressions, apart from any reader.

Owns: expression trees, the grammar that tells which texts spell a tree, the value of a tree,
and an induction over derivations that sees a chain of operands as a whole.

Does not own: which tree a text spells, and whether a reader finds it.

The grammar is the usual one of arithmetic: a sum is a product, or a sum, an additive operator
and a product; a product is an operand, or a product, a multiplicative operator and an operand.
So chains group to the left. Two lexemes may stand apart by any white space.
-/

set_option autoImplicit false

namespace CounterMachine

open Text Source

namespace Expression

/-! ## Trees and their values -/

/-- A tree with its numerals and names as they are spelled. It has no parentheses. -/
inductive Term where
  | literal (digits : List Char)
  | identifier (letters : List Char)
  | negation (operand : Term)
  | binary (operator : BinaryOperator) (left right : Term)
  | call (letters : List Char) (first : Term) (others : List Term)

/-- Quotients are rounded down, and there is none by zero. -/
def result? (left right : Int) : BinaryOperator → Option Int
  | .plus => some (left + right)
  | .minus => some (left - right)
  | .times => some (left * right)
  | .over => if right = 0 then none else some (Int.fdiv left right)
  | .modulo => if right = 0 then none else some (Int.fmod left right)

/-- The functions are min and max, in any letter case. -/
def choice? (letters : List Char) : Option (Int → Int → Int) :=
  if letters.map Char.toLower = ['m', 'i', 'n'] then some min
  else if letters.map Char.toLower = ['m', 'a', 'x'] then some max
  else none

namespace Term

mutual

/-- The value of a tree, if all its calls are of functions and none of its divisors is zero. -/
def value? (registers : String → Int) : Term → Option Int
  | .literal digits => some (numeralValue digits)
  | .identifier letters => some (registers (lowered letters))
  | .negation operand => do
      let number ← value? registers operand
      return -number
  | .binary operator left right => do
      let leftNumber ← value? registers left
      let rightNumber ← value? registers right
      result? leftNumber rightNumber operator
  | .call letters first others => do
      let number ← value? registers first
      let numbers ← values? registers others
      let choose ← choice? letters
      return numbers.foldl choose number

def values? (registers : String → Int) : List Term → Option (List Int)
  | [] => some []
  | term :: later => do
      let number ← value? registers term
      let numbers ← values? registers later
      return number :: numbers

end

end Term

/-! ## The grammar -/

/-- A run of white space, which may be empty. -/
abbrev IsGap (text : List Char) : Prop :=
  Consists isWhiteSpace text

/-- A word that starts with an ASCII letter or an underscore. -/
def IsIdentifier (letters : List Char) : Prop :=
  (∃ first ∈ letters.head?, startsName first = true) ∧ Consists isWord letters

instance (letters : List Char) : Decidable (IsIdentifier letters) :=
  inferInstanceAs (Decidable (_ ∧ _))

theorem IsIdentifier.exists_cons {letters : List Char} (isIdentifier : IsIdentifier letters) :
    ∃ first later, letters = first :: later ∧ startsName first = true := by
  obtain ⟨⟨first, found, starts⟩, -⟩ := isIdentifier
  obtain ⟨later, rfl⟩ := List.head?_eq_some_iff.mp found
  exact ⟨first, later, rfl, starts⟩

/-- What a part of a text can be read as. -/
inductive Phrase where
  | operand (term : Term)
  | product (term : Term)
  | sum (term : Term)
  | arguments (first : Term) (others : List Term)

namespace Phrase

inductive Derives : Phrase → List Char → Prop where
  | literal {digits : List Char} (isRun : IsRun Char.isDigit digits) :
      Derives (.operand (.literal digits)) digits
  | identifier {letters : List Char} (isIdentifier : IsIdentifier letters) :
      Derives (.operand (.identifier letters)) letters
  | negation {term : Term} {gap text : List Char} (isGap : IsGap gap)
      (operand : Derives (.operand term) text) :
      Derives (.operand (.negation term)) ('-' :: (gap ++ text))
  | parentheses {term : Term} {before text after : List Char} (isGap : IsGap before)
      (sum : Derives (.sum term) text) (isGapAfter : IsGap after) :
      Derives (.operand term) ('(' :: (before ++ text ++ after ++ [')']))
  | call {letters gap before text after : List Char} {first : Term} {others : List Term}
      (isIdentifier : IsIdentifier letters) (isGap : IsGap gap) (isGapBefore : IsGap before)
      (arguments : Derives (.arguments first others) text) (isGapAfter : IsGap after) :
      Derives (.operand (.call letters first others))
        (letters ++ gap ++ '(' :: (before ++ text ++ after ++ [')']))
  | factor {term : Term} {text : List Char} (operand : Derives (.operand term) text) :
      Derives (.product term) text
  | multiplied {left right : Term} {leftText before after rightText : List Char} {mark : Char}
      {operator : BinaryOperator} (product : Derives (.product left) leftText)
      (isGap : IsGap before) (sign : BinaryOperator.multiplicative? mark = some operator)
      (isGapAfter : IsGap after) (operand : Derives (.operand right) rightText) :
      Derives (.product (.binary operator left right))
        (leftText ++ (before ++ mark :: (after ++ rightText)))
  | summand {term : Term} {text : List Char} (product : Derives (.product term) text) :
      Derives (.sum term) text
  | added {left right : Term} {leftText before after rightText : List Char} {mark : Char}
      {operator : BinaryOperator} (sum : Derives (.sum left) leftText)
      (isGap : IsGap before) (sign : BinaryOperator.additive? mark = some operator)
      (isGapAfter : IsGap after) (product : Derives (.product right) rightText) :
      Derives (.sum (.binary operator left right))
        (leftText ++ (before ++ mark :: (after ++ rightText)))
  | argument {term : Term} {text : List Char} (sum : Derives (.sum term) text) :
      Derives (.arguments term []) text
  | listed {first last : Term} {others : List Term} {text before after lastText : List Char}
      (arguments : Derives (.arguments first others) text) (isGap : IsGap before)
      (isGapAfter : IsGap after) (sum : Derives (.sum last) lastText) :
      Derives (.arguments first (others ++ [last]))
        (text ++ (before ++ ',' :: (after ++ lastText)))

end Phrase

/-- The text spells the tree, with any white space around it. -/
def Term.SpelledBy (term : Term) (text : List Char) : Prop :=
  ∃ before body after, text = before ++ body ++ after ∧ IsGap before ∧ IsGap after ∧
    (Phrase.sum term).Derives body

/-! ## Chains -/

/-- Operands of a chain behind its first one, each behind a mark between gaps. -/
inductive Tail {Operator : Type} (operator? : Char → Option Operator)
    (Operand : Term → List Char → Prop) : List (Operator × Term) → List Char → Prop where
  | nil : Tail operator? Operand [] []
  | cons {mark : Char} {operator : Operator} {term : Term}
      {before after text laterText : List Char} {later : List (Operator × Term)}
      (isGap : IsGap before) (sign : operator? mark = some operator) (isGapAfter : IsGap after)
      (operand : Operand term text) (rest : Tail operator? Operand later laterText) :
      Tail operator? Operand ((operator, term) :: later)
        (before ++ mark :: (after ++ text ++ laterText))

/-- A chain: its first operand, the other ones and the text of all. -/
inductive Chain {Operator : Type} (operator? : Char → Option Operator)
    (Operand : Term → List Char → Prop) :
    Term → List (Operator × Term) → List Char → Prop where
  | intro {first : Term} {others : List (Operator × Term)} {text tail : List Char}
      (operand : Operand first text) (rest : Tail operator? Operand others tail) :
      Chain operator? Operand first others (text ++ tail)

/-- The operands joined from left to right. -/
def joined (first : Term) (others : List (BinaryOperator × Term)) : Term :=
  others.foldl (fun left other => .binary other.1 left other.2) first

@[simp]
theorem joined_cons (first term : Term) (operator : BinaryOperator)
    (later : List (BinaryOperator × Term)) :
    joined first ((operator, term) :: later) = joined (.binary operator first term) later :=
  rfl

theorem eq_comma_of_separator? {mark : Char} {separator : Unit}
    (sign : separator? mark = some separator) : mark = ',' := by
  unfold separator? at sign
  split at sign
  · rfl
  · cases sign

section Chains

variable {Operator : Type} {operator? : Char → Option Operator}
  {Operand Weaker : Term → List Char → Prop}

theorem Tail.imp {others : List (Operator × Term)} {text : List Char}
    (tail : Tail operator? Operand others text)
    (weaken : ∀ term text, Operand term text → Weaker term text) :
    Tail operator? Weaker others text := by
  induction tail with
  | nil => exact .nil
  | cons isGap sign isGapAfter operand rest inductionHypothesis =>
      exact .cons isGap sign isGapAfter (weaken _ _ operand) inductionHypothesis

theorem Chain.imp {first : Term} {others : List (Operator × Term)} {text : List Char}
    (chain : Chain operator? Operand first others text)
    (weaken : ∀ term text, Operand term text → Weaker term text) :
    Chain operator? Weaker first others text := by
  obtain ⟨operand, rest⟩ := chain
  exact .intro (weaken _ _ operand) (rest.imp weaken)

theorem Chain.single {term : Term} {text : List Char} (operand : Operand term text) :
    Chain operator? Operand term [] text := by
  have chain := Chain.intro operand (.nil : Tail operator? Operand [] [])
  rwa [List.append_nil] at chain

private theorem Tail.concat {mark : Char} {operator : Operator} {term : Term}
    {before after text laterText : List Char} {others : List (Operator × Term)}
    (tail : Tail operator? Operand others laterText) (isGap : IsGap before)
    (sign : operator? mark = some operator) (isGapAfter : IsGap after)
    (operand : Operand term text) :
    Tail operator? Operand (others ++ [(operator, term)])
      (laterText ++ (before ++ mark :: (after ++ text))) := by
  induction tail with
  | nil =>
      have single := Tail.cons isGap sign isGapAfter operand (.nil : Tail operator? Operand [] [])
      rwa [List.append_nil] at single
  | cons isGapHere signHere isGapAfterHere operandHere rest inductionHypothesis =>
      have grown := Tail.cons isGapHere signHere isGapAfterHere operandHere inductionHypothesis
      simpa only [List.append_assoc, List.cons_append] using grown

/-- A chain grows at its end. -/
theorem Chain.concat {mark : Char} {operator : Operator} {first term : Term}
    {text before after last : List Char} {others : List (Operator × Term)}
    (chain : Chain operator? Operand first others text) (isGap : IsGap before)
    (sign : operator? mark = some operator) (isGapAfter : IsGap after)
    (operand : Operand term last) :
    Chain operator? Operand first (others ++ [(operator, term)])
      (text ++ (before ++ mark :: (after ++ last))) := by
  obtain ⟨firstOperand, rest⟩ := chain
  rw [List.append_assoc]
  exact .intro firstOperand (rest.concat isGap sign isGapAfter operand)

end Chains

namespace Phrase.Derives

private theorem product_append {first : Term} {others : List (BinaryOperator × Term)}
    {text tail : List Char} (derives : (Phrase.product first).Derives text)
    (rest : Tail BinaryOperator.multiplicative? (fun term => (Phrase.operand term).Derives)
      others tail) :
    (Phrase.product (joined first others)).Derives (text ++ tail) := by
  induction rest generalizing first text with
  | nil => rwa [List.append_nil]
  | cons isGap sign isGapAfter operand rest inductionHypothesis =>
      have grown := inductionHypothesis (.multiplied derives isGap sign isGapAfter operand)
      simpa only [joined_cons, List.append_assoc, List.cons_append] using grown

private theorem sum_append {first : Term} {others : List (BinaryOperator × Term)}
    {text tail : List Char} (derives : (Phrase.sum first).Derives text)
    (rest : Tail BinaryOperator.additive? (fun term => (Phrase.product term).Derives)
      others tail) :
    (Phrase.sum (joined first others)).Derives (text ++ tail) := by
  induction rest generalizing first text with
  | nil => rwa [List.append_nil]
  | cons isGap sign isGapAfter operand rest inductionHypothesis =>
      have grown := inductionHypothesis (.added derives isGap sign isGapAfter operand)
      simpa only [joined_cons, List.append_assoc, List.cons_append] using grown

private theorem arguments_append {first : Term} {known : List Term} {others : List (Unit × Term)}
    {text tail : List Char} (derives : (Phrase.arguments first known).Derives text)
    (rest : Tail separator? (fun term => (Phrase.sum term).Derives) others tail) :
    (Phrase.arguments first (known ++ others.map Prod.snd)).Derives (text ++ tail) := by
  induction rest generalizing known text with
  | nil => simpa only [List.map_nil, List.append_nil] using derives
  | cons isGap sign isGapAfter operand rest inductionHypothesis =>
      have comma := eq_comma_of_separator? sign
      subst comma
      have grown := inductionHypothesis (.listed derives isGap isGapAfter operand)
      simpa only [List.append_assoc, List.cons_append, List.map_cons, List.nil_append]
        using grown

theorem product {first : Term} {others : List (BinaryOperator × Term)} {text : List Char}
    (chain : Chain BinaryOperator.multiplicative? (fun term => (Phrase.operand term).Derives)
      first others text) :
    (Phrase.product (joined first others)).Derives text := by
  obtain ⟨operand, rest⟩ := chain
  exact product_append (.factor operand) rest

theorem sum {first : Term} {others : List (BinaryOperator × Term)} {text : List Char}
    (chain : Chain BinaryOperator.additive? (fun term => (Phrase.product term).Derives)
      first others text) :
    (Phrase.sum (joined first others)).Derives text := by
  obtain ⟨product, rest⟩ := chain
  exact sum_append (.summand product) rest

theorem arguments {first : Term} {others : List (Unit × Term)} {text : List Char}
    (chain : Chain separator? (fun term => (Phrase.sum term).Derives) first others text) :
    (Phrase.arguments first (others.map Prod.snd)).Derives text := by
  obtain ⟨sum, rest⟩ := chain
  exact arguments_append (.argument sum) rest

end Phrase.Derives

/-! ## Induction over derivations -/

namespace Phrase

/-- Properties of operands, products, sums and argument lists that pass from the parts of a
text to the whole. The parts of a chain are its operands, not the shorter chains within it. -/
structure Hereditary (Operand Product Sum : Term → List Char → Prop)
    (Arguments : Term → List Term → List Char → Prop) : Prop where
  literal : ∀ {digits : List Char}, IsRun Char.isDigit digits → Operand (.literal digits) digits
  identifier : ∀ {letters : List Char}, IsIdentifier letters →
    Operand (.identifier letters) letters
  negation : ∀ {term : Term} {gap text : List Char}, IsGap gap →
    (Phrase.operand term).Derives text → Operand term text →
    Operand (.negation term) ('-' :: (gap ++ text))
  parentheses : ∀ {term : Term} {before text after : List Char}, IsGap before →
    (Phrase.sum term).Derives text → Sum term text → IsGap after →
    Operand term ('(' :: (before ++ text ++ after ++ [')']))
  call : ∀ {letters gap before text after : List Char} {first : Term} {others : List Term},
    IsIdentifier letters → IsGap gap → IsGap before →
    (Phrase.arguments first others).Derives text → Arguments first others text → IsGap after →
    Operand (.call letters first others)
      (letters ++ gap ++ '(' :: (before ++ text ++ after ++ [')']))
  product : ∀ {first : Term} {others : List (BinaryOperator × Term)} {text : List Char},
    Chain BinaryOperator.multiplicative?
      (fun term text => (Phrase.operand term).Derives text ∧ Operand term text)
      first others text →
    Product (joined first others) text
  sum : ∀ {first : Term} {others : List (BinaryOperator × Term)} {text : List Char},
    Chain BinaryOperator.additive?
      (fun term text => (Phrase.product term).Derives text ∧ Product term text)
      first others text →
    Sum (joined first others) text
  arguments : ∀ {first : Term} {others : List (Unit × Term)} {text : List Char},
    Chain separator? (fun term text => (Phrase.sum term).Derives text ∧ Sum term text)
      first others text →
    Arguments first (others.map Prod.snd) text

variable {Operand Product Sum : Term → List Char → Prop}
  {Arguments : Term → List Term → List Char → Prop}

/-- The property of an operand, or the chain of parts with their properties. -/
private def Decomposed (Operand Product Sum : Term → List Char → Prop) :
    Phrase → List Char → Prop
  | .operand term, text => Operand term text
  | .product term, text => ∃ first others, term = joined first others ∧
      Chain BinaryOperator.multiplicative?
        (fun term text => (Phrase.operand term).Derives text ∧ Operand term text)
        first others text
  | .sum term, text => ∃ first others, term = joined first others ∧
      Chain BinaryOperator.additive?
        (fun term text => (Phrase.product term).Derives text ∧ Product term text)
        first others text
  | .arguments first others, text => ∃ pairs, others = pairs.map Prod.snd ∧
      Chain separator? (fun term text => (Phrase.sum term).Derives text ∧ Sum term text)
        first pairs text

namespace Hereditary

variable (hereditary : Hereditary Operand Product Sum Arguments)

include hereditary

private theorem decomposed {phrase : Phrase} {text : List Char} (derives : phrase.Derives text) :
    phrase.Decomposed Operand Product Sum text := by
  have productHolds {term : Term} {text : List Char}
      (parts : (Phrase.product term).Decomposed Operand Product Sum text) :
      Product term text := by
    obtain ⟨first, others, rfl, chain⟩ := parts
    exact hereditary.product chain
  have sumHolds {term : Term} {text : List Char}
      (parts : (Phrase.sum term).Decomposed Operand Product Sum text) : Sum term text := by
    obtain ⟨first, others, rfl, chain⟩ := parts
    exact hereditary.sum chain
  induction derives with
  | literal isRun => exact hereditary.literal isRun
  | identifier isIdentifier => exact hereditary.identifier isIdentifier
  | negation isGap operand holds => exact hereditary.negation isGap operand holds
  | parentheses isGap sum isGapAfter parts =>
      exact hereditary.parentheses isGap sum (sumHolds parts) isGapAfter
  | call isIdentifier isGap isGapBefore arguments isGapAfter parts =>
      obtain ⟨pairs, rfl, chain⟩ := parts
      exact hereditary.call isIdentifier isGap isGapBefore arguments
        (hereditary.arguments chain) isGapAfter
  | factor operand holds => exact ⟨_, [], rfl, .single ⟨operand, holds⟩⟩
  | multiplied product isGap sign isGapAfter operand parts holds =>
      obtain ⟨first, others, rfl, chain⟩ := parts
      refine ⟨first, others ++ [(_, _)], ?_, chain.concat isGap sign isGapAfter ⟨operand, holds⟩⟩
      simp only [joined, List.foldl_append, List.foldl_cons, List.foldl_nil]
  | summand product parts => exact ⟨_, [], rfl, .single ⟨product, productHolds parts⟩⟩
  | added sum isGap sign isGapAfter product parts productParts =>
      obtain ⟨first, others, rfl, chain⟩ := parts
      refine ⟨first, others ++ [(_, _)], ?_,
        chain.concat isGap sign isGapAfter ⟨product, productHolds productParts⟩⟩
      simp only [joined, List.foldl_append, List.foldl_cons, List.foldl_nil]
  | argument sum parts => exact ⟨[], rfl, .single ⟨sum, sumHolds parts⟩⟩
  | listed arguments isGap isGapAfter sum parts sumParts =>
      obtain ⟨pairs, rfl, chain⟩ := parts
      refine ⟨pairs ++ [((), _)], ?_, chain.concat isGap rfl isGapAfter ⟨sum, sumHolds sumParts⟩⟩
      simp only [List.map_append, List.map_cons, List.map_nil]

theorem sum_holds {term : Term} {text : List Char} (derives : (Phrase.sum term).Derives text) :
    Sum term text := by
  obtain ⟨first, others, rfl, chain⟩ := hereditary.decomposed derives
  exact hereditary.sum chain

end Hereditary

/-- Nothing is asked of the parts, so that a derivation is only taken apart. -/
private theorem hereditary_true :
    Hereditary (fun _ _ => True) (fun _ _ => True) (fun _ _ => True) (fun _ _ _ => True) := by
  constructor <;> intros <;> trivial

namespace Derives

theorem exists_product_chain {term : Term} {text : List Char}
    (derives : (Phrase.product term).Derives text) :
    ∃ first others, term = joined first others ∧
      Chain BinaryOperator.multiplicative? (fun term => (Phrase.operand term).Derives)
        first others text := by
  obtain ⟨first, others, same, chain⟩ := hereditary_true.decomposed derives
  exact ⟨first, others, same, chain.imp fun _ _ => And.left⟩

theorem exists_sum_chain {term : Term} {text : List Char}
    (derives : (Phrase.sum term).Derives text) :
    ∃ first others, term = joined first others ∧
      Chain BinaryOperator.additive? (fun term => (Phrase.product term).Derives)
        first others text := by
  obtain ⟨first, others, same, chain⟩ := hereditary_true.decomposed derives
  exact ⟨first, others, same, chain.imp fun _ _ => And.left⟩

theorem exists_arguments_chain {first : Term} {others : List Term} {text : List Char}
    (derives : (Phrase.arguments first others).Derives text) :
    ∃ pairs, others = pairs.map Prod.snd ∧
      Chain separator? (fun term => (Phrase.sum term).Derives) first pairs text := by
  obtain ⟨pairs, same, chain⟩ := hereditary_true.decomposed derives
  exact ⟨pairs, same, chain.imp fun _ _ => And.left⟩

end Derives

end Phrase

end Expression

end CounterMachine
