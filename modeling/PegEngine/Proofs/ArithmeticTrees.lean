import PegEngine.Grammars.Arithmetic
import Mathlib.Tactic.Ring

/-!
# What an arithmetic expression is worth

Sums join products with `+` and `-`, products join terms with `*` and `/`, and a
term is a numeral or a sum between parentheses.  A tree shows how a text is
derived by these rules.  Its value is found by carrying out the operations from
left to right, as long as all numerals and results are in the range of a word
and nothing is divided by zero.  This file also compares the steps of that with
what the code of the grammar does.
-/

namespace PegEngine

namespace Arithmetic

/-- The two ways of joining operands. -/
inductive Joint where
  | sum
  | product
deriving DecidableEq, Repr

/-- The levels on which phrases are derived. -/
inductive Level where
  | joined (joint : Joint)
  | term
deriving DecidableEq, Repr

namespace Joint

def operators : Joint → List Char
  | .sum => ['+', '-']
  | .product => ['*', '/']

/-- The level of the operands. -/
def operand : Joint → Level
  | .sum => .joined .product
  | .product => .term

end Joint

mutual

/-- The derivations of the phrases of a level. -/
inductive Tree : Level → Type where
  | numeral (digits : List Char) (isNonempty : digits ≠ [])
      (areDigits : ∀ char ∈ digits, char.isDigit = true) : Tree .term
  | bracketed (sum : Tree (.joined .sum)) : Tree .term
  | joined (joint : Joint) (first : Tree joint.operand)
      (later : Operations joint) : Tree (.joined joint)

/-- Any number of operators, each of them with its right operand. -/
inductive Operations : Joint → Type where
  | none {joint : Joint} : Operations joint
  | operation {joint : Joint} (operator : Char)
      (isOperator : operator ∈ joint.operators) (operand : Tree joint.operand)
      (later : Operations joint) : Operations joint

end

mutual

/-- The text that is derived. -/
def Tree.text {level : Level} : Tree level → List Char
  | .numeral digits _ _ => digits
  | .bracketed sum => '(' :: sum.text ++ [')']
  | .joined _ first later => first.text ++ later.text

def Operations.text {joint : Joint} : Operations joint → List Char
  | .none => []
  | .operation operator _ operand later =>
    operator :: operand.text ++ later.text

end

/-- A number, provided that it is in the range of a word. -/
def inRange (number : Int) : Option Int :=
  if fitsWord number then some number else none

/-- The result of one operation, if there is one and it is in range. -/
def operated? (left : Int) (operator : Char) (right : Int) : Option Int :=
  match operator with
  | '+' => inRange (left + right)
  | '-' => inRange (left - right)
  | '*' => inRange (left * right)
  | '/' => if right = 0 then none else inRange (left.tdiv right)
  | _ => none

mutual

/-- The value of a phrase, if every numeral and every result on the way to it is
in range and nothing is divided by zero. -/
def Tree.value? {level : Level} : Tree level → Option Int
  | .numeral digits _ _ => inRange (Nat.ofDigitChars 10 digits 0)
  | .bracketed sum => sum.value?
  | .joined _ first later => first.value?.bind later.value?

/-- The result of carrying out operations, from left to right, on a number. -/
def Operations.value? {joint : Joint} :
    Operations joint → Int → Option Int
  | .none, left => some left
  | .operation operator _ operand later, left =>
    (operand.value?.bind (operated? left operator)).bind later.value?

end

/-- The remainder of a division is dropped, before anything is added. -/
example :
    let digit (char : Char) (isDigit : char.isDigit = true) : Tree .term :=
      .numeral [char] nofun (List.forall_mem_singleton.mpr isDigit)
    (Tree.joined .sum
      (.joined .product (digit '7' rfl)
        (.operation '/' (by decide) (digit '2' rfl) .none))
      (.operation '-' (by decide)
        (.joined .product (digit '4' rfl) .none) .none)).value? =
          some (-1) := by
  decide

theorem isDigit_iff {char : Char} :
    char.isDigit = true ↔ '0' ≤ char ∧ char ≤ '9' :=
  Char.isDigit_iff_toNat

theorem fitsWord_mono {lesser greater : Nat} (atMost : lesser ≤ greater)
    (fits : fitsWord greater = true) : fitsWord lesser = true := by
  simp only [fitsWord, Bool.and_eq_true, decide_eq_true_eq] at fits ⊢
  omega

theorem le_ofDigitChars (digits : List Char) (number : Nat) :
    number ≤ Nat.ofDigitChars 10 digits number := by
  induction digits generalizing number with
  | nil => rfl
  | cons char digits ih =>
      rw [Nat.ofDigitChars_cons]
      exact Nat.le_trans (by omega) (ih _)

/-- Digits are read up to where the number leaves the range of a word.  From
there on it would not come back. -/
theorem readDigits_eq {digits : List Char}
    (areDigits : ∀ char ∈ digits, char.isDigit = true) {number : Nat}
    (fits : fitsWord number = true) :
    Numeral.readDigits false number digits =
      if fitsWord (Nat.ofDigitChars 10 digits number) then
        .ok (Nat.ofDigitChars 10 digits number : Int)
      else .error .tooLarge := by
  induction digits generalizing number with
  | nil =>
      rw [Nat.ofDigitChars_nil, if_pos fits]
      rfl
  | cons char digits ih =>
      obtain ⟨isDigit, othersAre⟩ := List.forall_mem_cons.mp areDigits
      have next : (number : Int) * 10 + ((char.toNat - '0'.toNat : Nat) : Int) =
          ((10 * number + (char.toNat - '0'.toNat) : Nat) : Int) := by
        push_cast
        ring
      simp only [Numeral.readDigits, Numeral.digit?,
        if_pos (isDigit_iff.mp isDigit), Bool.false_eq_true, if_false, next,
        Nat.ofDigitChars_cons]
      split
      case isTrue fits => exact ih othersAre fits
      case isFalse large =>
        rw [if_neg fun fits => large (fitsWord_mono (le_ofDigitChars _ _) fits)]

theorem read_eq {digits : List Char} (isNonempty : digits ≠ [])
    (areDigits : ∀ char ∈ digits, char.isDigit = true) :
    Numeral.read digits =
      if fitsWord (Nat.ofDigitChars 10 digits 0) then
        .ok (Nat.ofDigitChars 10 digits 0 : Int)
      else .error .tooLarge := by
  have unsigned : Numeral.read digits = Numeral.readDigits false 0 digits := by
    obtain ⟨char, others, rfl⟩ := List.exists_cons_of_ne_nil isNonempty
    have isDigit := areDigits char List.mem_cons_self
    have noPlus : char ≠ '+' := by
      rintro rfl
      cases isDigit
    have noMinus : char ≠ '-' := by
      rintro rfl
      cases isDigit
    simp [Numeral.read, noPlus, noMinus]
  rw [unsigned]
  exact readDigits_eq areDigits (by decide)

theorem checked_eq_answer_iff {operation : String} {number result : Int} :
    checked operation number = .answer result ↔
      inRange number = some result := by
  unfold checked inRange
  split <;> simp

/-- The code of the grammar carries out operations in the same way. -/
theorem operate_eq_answer_iff {joint : Joint} {operator : Char}
    (isOperator : operator ∈ joint.operators) {left right result : Int} :
    operate left (some (String.ofList [operator])) right = .answer result ↔
      operated? left operator right = some result := by
  have cases : operator = '+' ∨ operator = '-' ∨ operator = '*' ∨
      operator = '/' := by
    cases joint <;> simp only [Joint.operators, List.mem_cons,
      List.not_mem_nil, or_false] at isOperator <;> tauto
  rcases cases with rfl | rfl | rfl | rfl
  · exact checked_eq_answer_iff
  · exact checked_eq_answer_iff
  · exact checked_eq_answer_iff
  · have opened : operate left (some (String.ofList ['/'])) right =
        if right = 0 then .complaint "division by zero"
        else checked "divide" (left.tdiv right) := rfl
    rw [opened]
    by_cases isZero : right = 0
    · simp [operated?, isZero]
    · simp only [operated?, if_neg isZero]
      exact checked_eq_answer_iff

end Arithmetic

end PegEngine
