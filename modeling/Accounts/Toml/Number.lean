import Accounts.Number.Decimal
import Accounts.Toml.Reader

/-!
# Numbers of TOML

Integers of 64 bits in four bases and floats in decimal. Single underscores may stand between
digits.
-/

namespace Accounts.Toml

inductive Number where
  | integer (value : Int)
  | float (value : Binary64)
deriving DecidableEq, Repr

namespace Reader

/-- The value of a digit in a base of at most sixteen. -/
def digitValue (c : Char) : Nat :=
  if c.isDigit then c.toNat - '0'.toNat else c.toLower.toNat - 'a'.toNat + 10

/-- Whether a character is a digit in a base of at most sixteen. -/
def isDigitOf (base : Nat) (c : Char) : Bool :=
  (c.isDigit || ('a' ≤ c.toLower && c.toLower ≤ 'f')) && digitValue c < base

/-- Digits, with single underscores between them left out. -/
def digits (base : Nat) : Reader (List Char) := do
  let groups ← separated (do
    let first ← satisfy (isDigitOf base)
    pure (first :: (← takeWhile (isDigitOf base)))) (char '_')
  pure groups.flatten

/-- An integer in a base other than ten, written without a sign. -/
def basedInteger (mark : String) (base : Nat) : Reader Number := do
  word mark
  let n := (← digits base).foldl (fun n c => n * base + digitValue c) 0
  if n ≤ Integer.maxSigned64 then pure (.integer n) else failure

/-- A sign, or nothing. -/
def sign : Reader (List Char) := (do pure [← satisfy fun c => c == '+' || c == '-']) <|> pure []

/-- The digits of a whole decimal number: no zero stands before others. -/
def wholeDigits : Reader (List Char) := do
  let ds ← digits 10
  match ds with
  | '0' :: _ :: _ => failure
  | _ => pure ds

/-- The point of a float and its digits after it. -/
def fraction : Reader (List Char) := do
  char '.'
  pure ('.' :: (← digits 10))

def exponent : Reader (List Char) := do
  let _ ← satisfy fun c => c == 'e' || c == 'E'
  let s ← sign
  pure ('e' :: s ++ (← digits 10))

/-- A float in decimal. One that is too large is refused, unless it is negative. -/
def decimalFloat : Reader Number := do
  let s ← sign
  let whole ← wholeDigits
  let rest ← (do let f ← fraction; pure (f ++ ((← optional exponent).getD []))) <|> exponent
  match Binary64.ofText? (s ++ whole ++ rest) with
  | some x => if x == .infinite false then failure else pure (.float x)
  | none => failure

/-- One of the floats that have a name. -/
def namedFloat : Reader Number := do
  let negative := (← sign) == ['-']
  (do word "inf"; pure (.float (.infinite negative))) <|> (do word "nan"; pure (.float .nan))

/-- An integer in decimal. -/
def decimalInteger : Reader Number := do
  let s ← sign
  match Integer.parseInt Integer.maxSigned64 (s ++ (← wholeDigits)) with
  | .ok n => pure (.integer n)
  | .error _ => failure

def number : Reader Number :=
  basedInteger "0x" 16 <|> basedInteger "0o" 8 <|> basedInteger "0b" 2 <|>
    decimalFloat <|> namedFloat <|> decimalInteger

end Reader

end Accounts.Toml
