/-!
# Integers in decimal

Reading the decimal text of an integer that has to lie in a range, and writing it. The range is
checked digit by digit from the left, so a text that is out of range before its first bad character
is reported as out of range.
-/

namespace Accounts

/-- Why a text is not an integer of the wanted range. -/
inductive IntegerFault where
  /-- There is no character at all. -/
  | empty
  /-- A character is not a digit, or a sign stands alone. -/
  | invalidDigit
  /-- The number is above the range. -/
  | tooLarge
  /-- The number is below the range. -/
  | tooSmall
deriving DecidableEq, Repr

namespace IntegerFault

def message : IntegerFault → String
  | empty => "cannot parse integer from empty string"
  | invalidDigit => "invalid digit found in string"
  | tooLarge => "number too large to fit in target type"
  | tooSmall => "number too small to fit in target type"

end IntegerFault

namespace Integer

def digit? (c : Char) : Option Nat :=
  if '0' ≤ c ∧ c ≤ '9' then some (c.toNat - '0'.toNat) else none

/-- Reads digits as a magnitude of at most `bound`, going on from `value`. -/
def magnitude (bound : Nat) (beyond : IntegerFault) :
    List Char → Nat → Except IntegerFault Nat
  | [], value => .ok value
  | c :: rest, value =>
    match digit? c with
    | none => .error .invalidDigit
    | some d =>
      if value * 10 + d ≤ bound then magnitude bound beyond rest (value * 10 + d)
      else .error beyond

/-- Reads a number from 0 to `bound`. A plus sign may precede the digits. -/
def parseNat (bound : Nat) (text : List Char) : Except IntegerFault Nat :=
  match text with
  | [] => .error .empty
  | ['+'] => .error .invalidDigit
  | '+' :: digits => magnitude bound .tooLarge digits 0
  | digits => magnitude bound .tooLarge digits 0

/-- Reads a number from `-(bound + 1)` to `bound`. A sign may precede the digits. -/
def parseInt (bound : Nat) (text : List Char) : Except IntegerFault Int :=
  match text with
  | [] => .error .empty
  | ['+'] => .error .invalidDigit
  | ['-'] => .error .invalidDigit
  | '+' :: digits => (magnitude bound .tooLarge digits 0).map Int.ofNat
  | '-' :: digits => (magnitude (bound + 1) .tooSmall digits 0).map fun n => -Int.ofNat n
  | digits => (magnitude bound .tooLarge digits 0).map Int.ofNat

def maxUnsigned8 : Nat := 255

def maxUnsigned32 : Nat := 4294967295

def maxUnsigned64 : Nat := 18446744073709551615

def maxSigned64 : Nat := 9223372036854775807

/-- Signed numbers of 64 bits. -/
def IsSigned64 (n : Int) : Prop := -9223372036854775808 ≤ n ∧ n ≤ 9223372036854775807

instance (n : Int) : Decidable (IsSigned64 n) := inferInstanceAs (Decidable (_ ∧ _))

end Integer

end Accounts
