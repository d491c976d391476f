import Accounts.Number.Binary64
import Accounts.Number.Integer

/-!
# Numbers in decimal notation

The number that a text such as `-12.5e3` stands for, rounded once to binary64.
-/

namespace Accounts.Binary64

/-- The decimal digits at the front of a text and what follows them. -/
def leadingDigits (cs : List Char) : List Char × List Char :=
  (cs.takeWhile Char.isDigit, cs.dropWhile Char.isDigit)

/-- A sign at the front of a text, whether it is a minus, and what follows it. -/
def leadingSign : List Char → Bool × List Char
  | '-' :: rest => (true, rest)
  | '+' :: rest => (false, rest)
  | rest => (false, rest)

/-- The natural number that digits stand for. -/
def digitsValue (digits : List Char) : Nat :=
  digits.foldl (fun n c => n * 10 + (c.toNat - '0'.toNat)) 0

/-- The exponent that ends a text: zero if there is none. -/
def exponent? : List Char → Option Int
  | [] => some 0
  | c :: rest =>
    if c = 'e' ∨ c = 'E' then
      let (negative, rest) := leadingSign rest
      let (digits, rest) := leadingDigits rest
      if digits.isEmpty || !rest.isEmpty then none
      else some (if negative then -(digitsValue digits : Int) else digitsValue digits)
    else none

/-- The number a text without its sign stands for: digits with a point anywhere among them, at least
one of them, and an exponent if wanted. -/
def unsigned? (negative : Bool) (cs : List Char) : Option Binary64 := do
  let (whole, rest) := leadingDigits cs
  let (fraction, rest) :=
    match rest with
    | '.' :: rest => leadingDigits rest
    | rest => ([], rest)
  let exponent ← exponent? rest
  if whole.isEmpty && fraction.isEmpty then none
  else some (ofDecimal negative (digitsValue (whole ++ fraction)) (exponent - fraction.length))

/-- The number a text stands for. The words for infinity and for no number may be in any case. -/
def ofText? (cs : List Char) : Option Binary64 :=
  let (negative, rest) := leadingSign cs
  match String.ofList (rest.map Char.toLower) with
  | "inf" | "infinity" => some (.infinite negative)
  | "nan" => some .nan
  | _ => unsigned? negative rest

end Accounts.Binary64
