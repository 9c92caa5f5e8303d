/-!
# Signed decimal numerals

Whole numbers are held in words of 64 bits.  A numeral is an optional sign and
at least one decimal digit; it is read from left to right, and the first
character that is no digit or that leaves the range of a word decides what is
wrong with it.
-/

namespace PegEngine

/-- The range of the whole numbers that one word holds. -/
def fitsWord (number : Int) : Bool :=
  -9223372036854775808 ≤ number && number ≤ 9223372036854775807

/-- What can be wrong with a numeral. -/
inductive NumeralError where
  | empty
  | invalidDigit
  | tooLarge
  | tooSmall
deriving DecidableEq, Repr

namespace NumeralError

def message : NumeralError → String
  | .empty => "cannot parse integer from empty string"
  | .invalidDigit => "invalid digit found in string"
  | .tooLarge => "number too large to fit in target type"
  | .tooSmall => "number too small to fit in target type"

end NumeralError

namespace Numeral

/-- The value of a decimal digit. -/
def digit? (char : Char) : Option Nat :=
  if '0' ≤ char ∧ char ≤ '9' then some (char.toNat - '0'.toNat) else none

/-- Read the digits after the sign, each one moving the number read so far away
from zero. -/
def readDigits (negative : Bool) (number : Int) :
    List Char → Except NumeralError Int
  | [] => .ok number
  | char :: chars =>
    match digit? char with
    | none => .error .invalidDigit
    | some digit =>
      let next := number * 10 + (if negative then -(digit : Int) else digit)
      if fitsWord next then readDigits negative next chars
      else .error (if negative then .tooSmall else .tooLarge)

/-- Read a numeral. -/
def read : List Char → Except NumeralError Int
  | [] => .error .empty
  | ['+'] | ['-'] => .error .invalidDigit
  | '+' :: digits => readDigits false 0 digits
  | '-' :: digits => readDigits true 0 digits
  | digits => readDigits false 0 digits

end Numeral

end PegEngine
