import Accounts.Json.Reader
import Accounts.Number.Integer

/-!
# Reading JSON numbers

Whole numbers that fit 64 bits are kept exactly. All others become binary64 numbers, from the first
digits that fit 64 bits and a power of ten, each step being rounded.
-/

namespace Accounts.Json

/-- A JSON number: whole numbers that fit 64 bits are kept exactly. -/
inductive Number where
  /-- A whole number from 0 to `2 ^ 64 - 1`. -/
  | natural (value : Nat)
  /-- A whole number from `-2 ^ 63` to `-1`. -/
  | negative (value : Int)
  | float (value : Binary64)
deriving DecidableEq, Repr

def Number.found : Number → Found
  | natural n => .natural n
  | negative n => .negative n
  | float x => .float x

namespace Reader

def digit? (b : UInt8) : Option Nat :=
  if 0x30 ≤ b ∧ b ≤ 0x39 then some (b.toNat - 0x30) else none

/-- Whether a digit comes next. -/
def startsWithDigit : List UInt8 → Bool
  | b :: _ => (digit? b).isSome
  | [] => false

/-- Reads digits on to a significand for as long as it fits 64 bits, and counts them. -/
def fittingDigits : List UInt8 → Nat → Nat → Nat × Nat × List UInt8
  | [], significand, count => (significand, count, [])
  | b :: rest, significand, count =>
    match digit? b with
    | none => (significand, count, b :: rest)
    | some d =>
      if significand * 10 + d ≤ Integer.maxUnsigned64 then
        fittingDigits rest (significand * 10 + d) (count + 1)
      else (significand, count, b :: rest)

/-- Skips digits and counts them. -/
def skippedDigits : List UInt8 → Nat → Nat × List UInt8
  | [], count => (count, [])
  | b :: rest, count =>
    if (digit? b).isSome then skippedDigits rest (count + 1) else (count, b :: rest)

/-- Scales a number by `10 ^ exponent` in steps of at most 308 places, each step rounded. `none` if
it grows beyond the format. The first argument bounds the steps. -/
def scaled : Nat → Binary64 → Int → Option Binary64
  | 0, x, _ => some x
  | steps + 1, x, exponent =>
    if exponent.natAbs ≤ 308 then
      let power := Binary64.ofDecimal false 1 exponent.natAbs
      if 0 ≤ exponent then
        match x.mul power with
        | .infinite _ => none
        | y => some y
      else some (x.div power)
    else if x.isZero then some x
    else if 0 ≤ exponent then none
    else scaled steps (x.div (Binary64.ofDecimal false 1 308)) (exponent + 308)

/-- The number `± significand * 10 ^ exponent`. -/
def assembled (negative : Bool) (significand : Nat) (exponent : Int) : Reader Number :=
  match scaled 4 (Binary64.ofNat significand) exponent with
  | some x => pure (.float (if negative then x.negate else x))
  | none => failHere .hugeNumber

/-- The sign of an exponent: whether it is below zero. -/
def exponentSign : Reader Bool := fun input =>
  match input with
  | b :: rest =>
    if b == byte '+' then .ok false rest
    else if b == byte '-' then .ok true rest
    else .ok false input
  | [] => .ok false []

/-- A digit that has to come in an exponent, with the fault of a text that ends before it. -/
def exponentDigit (atEnd : SyntaxFault) : Reader Nat := fun input =>
  match input with
  | [] => failHere atEnd []
  | b :: rest =>
    match digit? b with
    | some d => .ok d rest
    | none => failHere .badNumber rest

/-- Reads the digits of an exponent, stopping after the one that goes beyond `bound`. -/
def exponentPlaces (bound : Nat) : List UInt8 → Nat → Nat × List UInt8 × Bool
  | [], value => (value, [], false)
  | b :: rest, value =>
    match digit? b with
    | none => (value, b :: rest, false)
    | some d =>
      if value * 10 + d ≤ bound then exponentPlaces bound rest (value * 10 + d)
      else (value, rest, true)

/-- The digits of an exponent after the first, and whether they go beyond 32 bits. -/
def exponentRest (first : Nat) : Reader (Nat × Bool) := fun input =>
  let (value, rest, beyond) := exponentPlaces 2147483647 input first
  .ok (value, beyond) rest

/-- Digits that do not matter. -/
def ignoredDigits : Reader Unit := fun input => .ok () (skippedDigits input 0).2

/-- An exponent, the letter being next, and the number it completes. -/
def exponentPart (negative : Bool) (significand : Nat) (start : Int) : Reader Number := do
  advance
  let below ← exponentSign
  let first ← exponentDigit .endInValue
  let (digits, beyond) ← exponentRest first
  if beyond then
    if significand != 0 && !below then failHere .hugeNumber
    else do
      ignoredDigits
      pure (.float (Binary64.zero negative))
  else
    assembled negative significand (if below then start - digits else start + digits)

/-- What may follow the digits of a number: an exponent, or nothing. -/
def optionalExponent (negative : Bool) (significand : Nat) (start : Int) : Reader Number :=
  fun input =>
    match input with
    | b :: _ =>
      if b == byte 'e' || b == byte 'E' then exponentPart negative significand start input
      else assembled negative significand start input
    | [] => assembled negative significand start input

/-- The places after the point, which is next. Digits that no longer fit are dropped. -/
def fraction (negative : Bool) (significand : Nat) (start : Int) : Reader Number := fun input =>
  let (significand, count, rest) := fittingDigits input.tail significand 0
  if startsWithDigit rest then
    optionalExponent negative significand (start - count) (skippedDigits rest 0).2
  else if count == 0 then
    match rest with
    | [] => failNext .endInValue rest
    | _ :: _ => failNext .badNumber rest
  else optionalExponent negative significand (start - count) rest

/-- What follows a whole number that fits 64 bits. -/
def afterWhole (negative : Bool) (significand : Nat) : Reader Number := fun input =>
  match input with
  | b :: _ =>
    if b == byte '.' then fraction negative significand 0 input
    else if b == byte 'e' || b == byte 'E' then exponentPart negative significand 0 input
    else .ok whole input
  | [] => .ok whole []
where
  /-- The number if nothing follows. Zero with a minus sign is not a whole number. -/
  whole : Number :=
    if !negative then .natural significand
    else if significand == 0 || 9223372036854775808 < significand then
      .float (Binary64.ofNat significand).negate
    else .negative (-(significand : Int))

/-- A whole number with more digits than fit: the remaining ones only count. -/
def longWhole (negative : Bool) (significand : Nat) : Reader Number := fun input =>
  let (count, rest) := skippedDigits input 0
  match rest with
  | b :: _ =>
    if b == byte '.' then fraction negative significand count rest
    else optionalExponent negative significand count rest
  | [] => assembled negative significand count []

/-- A number without its sign. -/
def magnitude (negative : Bool) : Reader Number := fun input =>
  match input with
  | [] => failHere .endInValue []
  | b :: rest =>
    match digit? b with
    | none => failHere .badNumber rest
    | some 0 =>
      if startsWithDigit rest then failNext .badNumber rest
      else afterWhole negative 0 rest
    | some d =>
      let (significand, _, rest) := fittingDigits rest d 1
      if startsWithDigit rest then longWhole negative significand rest
      else afterWhole negative significand rest

/-- A number, its sign or first digit being next. -/
def number : Reader Number := fun input =>
  match input with
  | b :: rest => if b == byte '-' then magnitude true rest else magnitude false input
  | [] => magnitude false []

end Reader

end Accounts.Json
