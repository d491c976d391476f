/-!
# Binary floating point

Numbers of the binary64 format as exact values: a sign, a whole significand and a power of two.
Every operation is computed exactly and rounded once, to the nearest number and to the even
neighbour of two.
-/

namespace Accounts

/-- A number of the binary64 format. -/
inductive Binary64 where
  /-- The number `± significand * 2 ^ exponent` with `significand < 2 ^ 53` and
  `-1074 ≤ exponent ≤ 971`; the significand is at least `2 ^ 52` unless the exponent is `-1074`. -/
  | finite (negative : Bool) (significand : Nat) (exponent : Int)
  | infinite (negative : Bool)
  | nan
deriving DecidableEq, Repr

namespace Binary64

def zero (negative : Bool) : Binary64 := .finite negative 0 (-1074)

instance : Inhabited Binary64 := ⟨zero false⟩

/-- The nearest whole number to a quotient, the even one of two. -/
def roundQuotient (num den : Nat) : Nat :=
  let q := num / den
  let r := num % den
  if 2 * r < den then q
  else if den < 2 * r then q + 1
  else if q % 2 == 0 then q else q + 1

/-- The quotient `num / den` divided by `2 ^ exponent`, as a numerator and a denominator. -/
def scale (num den : Nat) (exponent : Int) : Nat × Nat :=
  match exponent with
  | .ofNat e => (num, den * Nat.pow 2 e)
  | .negSucc e => (num * Nat.pow 2 (e + 1), den)

/-- The binary exponent of a quotient whose significand is to have 53 bits. It may be one too
large. -/
def guess (num den : Nat) : Int := (num.log2 : Int) - (den.log2 : Int) - 52

/-- The binary exponent of the number nearest to a positive quotient. -/
def exponentOf (num den : Nat) : Int :=
  let (n, d) := scale num den (guess num den)
  max (if n < d * Nat.pow 2 52 then guess num den - 1 else guess num den) (-1074)

/-- The number with a given exponent and a significand that may have been rounded up to one bit too
many. -/
def normalized (negative : Bool) (significand : Nat) (exponent : Int) : Binary64 :=
  if significand == Nat.pow 2 53 then
    if 971 < exponent + 1 then .infinite negative
    else .finite negative (Nat.pow 2 52) (exponent + 1)
  else if 971 < exponent then .infinite negative
  else .finite negative significand exponent

/-- The number nearest to `± num / den`. -/
def ofRatio (negative : Bool) (num den : Nat) : Binary64 :=
  if num == 0 then zero negative
  else
    let (n, d) := scale num den (exponentOf num den)
    normalized negative (roundQuotient n d) (exponentOf num den)

/-- The number nearest to a whole number. -/
def ofNat (n : Nat) : Binary64 := ofRatio false n 1

def ofInt (n : Int) : Binary64 := ofRatio (n < 0) n.natAbs 1

/-- The power `2 ^ exponent` as a numerator and a denominator. -/
def power (exponent : Int) : Nat × Nat :=
  match exponent with
  | .ofNat e => (Nat.pow 2 e, 1)
  | .negSucc e => (1, Nat.pow 2 (e + 1))

/-- The magnitude of a finite number as a numerator and a denominator. -/
def ratio (significand : Nat) (exponent : Int) : Nat × Nat :=
  let (n, d) := power exponent
  (significand * n, d)

def negate : Binary64 → Binary64
  | .finite s m e => .finite (!s) m e
  | .infinite s => .infinite (!s)
  | .nan => .nan

/-- Whether the number is zero of either sign. -/
def isZero : Binary64 → Bool
  | .finite _ m _ => m == 0
  | _ => false

def mul : Binary64 → Binary64 → Binary64
  | .finite s m e, .finite t n f =>
    let (num, den) := ratio (m * n) (e + f)
    ofRatio (s != t) num den
  | .nan, _ => .nan
  | _, .nan => .nan
  | .infinite s, .infinite t => .infinite (s != t)
  | .infinite s, .finite t n _ => if n == 0 then .nan else .infinite (s != t)
  | .finite s m _, .infinite t => if m == 0 then .nan else .infinite (s != t)

def div : Binary64 → Binary64 → Binary64
  | .finite s m e, .finite t n f =>
    if n == 0 then if m == 0 then .nan else .infinite (s != t)
    else
      let (num, den) := power (e - f)
      ofRatio (s != t) (m * num) (n * den)
  | .nan, _ => .nan
  | _, .nan => .nan
  | .infinite _, .infinite _ => .nan
  | .infinite s, .finite t _ _ => .infinite (s != t)
  | .finite s _ _, .infinite t => zero (s != t)

/-- The number nearest to `digits * 10 ^ exponent`. -/
def ofDecimal (negative : Bool) (digits : Nat) (exponent : Int) : Binary64 :=
  if digits == 0 then zero negative
  else
    let size : Int := (digits.log2 : Int) / 4 + exponent
    if 400 < size then .infinite negative
    else if (digits.log2 : Int) + exponent < -400 then zero negative
    else match exponent with
      | .ofNat e => ofRatio negative (digits * Nat.pow 10 e) 1
      | .negSucc e => ofRatio negative digits (Nat.pow 10 (e + 1))

/-- The whole number nearest to a finite number, a half going away from zero. -/
def round? : Binary64 → Option Int
  | .finite s m e =>
    let (num, den) := ratio m e
    let q := (2 * num + den) / (2 * den)
    some (if s then -(q : Int) else q)
  | _ => none

/-! ## The fewest digits that read back -/

/-- A decimal: `digits * 10 ^ exponent`, the digits not ending in zero. -/
structure Decimal where
  digits : Nat
  exponent : Int

/-- Whether `digits * 10 ^ exponent` rounds to the number with this significand and binary exponent:
it lies between the midpoints to the two neighbours, which themselves round to even. -/
def readsBack (significand : Nat) (exponent : Int) (digits : Nat) (place : Int) : Bool :=
  ofDecimal false digits place == .finite false significand exponent

/-- The decimal with its final zeros moved into the exponent. The first argument bounds their
number. -/
def stripZeros : Nat → Nat → Int → Decimal
  | 0, digits, exponent => ⟨digits, exponent⟩
  | fuel + 1, digits, exponent =>
    if digits != 0 && digits % 10 == 0 then stripZeros fuel (digits / 10) (exponent + 1)
    else ⟨digits, exponent⟩

/-- The magnitude `num / den` in units of `10 ^ place`, rounded down, and whether the upper
neighbour is nearer (`none` at equal distance). -/
def floorAt (num den : Nat) (place : Int) : Nat × Ordering :=
  let (n, d) := match place with
    | .ofNat p => (num, den * Nat.pow 10 p)
    | .negSucc p => (num * Nat.pow 10 (p + 1), den)
  (n / d, compare (2 * (n % d)) d)

/-- Searches the grids of 1, 2, … digits for a decimal that reads back. Of two on one grid the
nearer one is taken, the even one at equal distance. `place` is the unit of the grid to try and the
first argument the number of grids left. -/
def searchGrids (significand : Nat) (exponent : Int) (num den : Nat) : Nat → Int → Decimal
  | 0, place => stripZeros 20 (floorAt num den place).1 place
  | grids + 1, place =>
    let (low, nearness) := floorAt num den place
    let lowHits := readsBack significand exponent low place
    let highHits := readsBack significand exponent (low + 1) place
    let upper := match nearness with
      | .lt => false
      | .gt => true
      | .eq => low % 2 == 1
    if lowHits && highHits then stripZeros 20 (if upper then low + 1 else low) place
    else if lowHits then stripZeros 20 low place
    else if highHits then stripZeros 20 (low + 1) place
    else searchGrids significand exponent num den grids (place - 1)

/-- The number of decimal digits before the point, minus one, of a positive quotient: the largest
`k` with `10 ^ k ≤ num / den`. -/
def magnitude10 (num den : Nat) : Int :=
  let guess : Int := ((num.log2 : Int) - (den.log2 : Int) - 1) * 30103 / 100000
  let atLeast (k : Int) : Bool := match k with
    | .ofNat p => den * Nat.pow 10 p ≤ num
    | .negSucc p => den ≤ num * Nat.pow 10 (p + 1)
  if atLeast (guess + 1) then guess + 1
  else if atLeast guess then guess
  else guess - 1

/-- The decimal with the fewest digits that rounds to a positive finite number, the nearest one of
those. -/
def shortest (significand : Nat) (exponent : Int) : Decimal :=
  if significand == 0 then ⟨0, 0⟩
  else
    let (num, den) := ratio significand exponent
    searchGrids significand exponent num den 17 (magnitude10 num den)

/-- The decimal digits of a number. -/
def digitText (n : Nat) : List Char := Nat.toDigits 10 n

/-- Positional notation of a decimal, without a point if it is whole. -/
def positional (d : Decimal) : String :=
  let digits := digitText d.digits
  match d.exponent with
  | .ofNat e => String.ofList (digits ++ List.replicate (if d.digits == 0 then 0 else e) '0')
  | .negSucc e =>
    let places := e + 1
    if digits.length ≤ places then
      "0." ++ String.ofList (List.replicate (places - digits.length) '0' ++ digits)
    else
      String.ofList (digits.take (digits.length - places)) ++ "." ++
        String.ofList (digits.drop (digits.length - places))

/-- The text of a number in positional notation. -/
def display : Binary64 → String
  | .finite s m e => (if s then "-" else "") ++ positional (shortest m e)
  | .infinite s => if s then "-inf" else "inf"
  | .nan => "NaN"

end Binary64

end Accounts
