/-!
# Base64

Bytes as text over 64 symbols, without padding, in the two alphabets of RFC 4648. Reading is strict:
bits that no byte needs have to be zero, so every byte string has one written form.
-/

namespace Accounts.Base64

/-- An alphabet: the symbols of the values 62 and 63. The others are letters and digits. -/
structure Alphabet where
  symbol62 : UInt8
  symbol63 : UInt8

/-- The alphabet with plus sign and slash. -/
def standard : Alphabet := ⟨'+'.toUInt8, '/'.toUInt8⟩

/-- The alphabet that needs no escaping in addresses and file names. -/
def urlSafe : Alphabet := ⟨'-'.toUInt8, '_'.toUInt8⟩

/-- The symbol of a value below 64. -/
def Alphabet.symbol (a : Alphabet) (value : Nat) : UInt8 :=
  if value < 26 then UInt8.ofNat (value + 65)
  else if value < 52 then UInt8.ofNat (value + 71)
  else if value < 62 then UInt8.ofNat (value - 4)
  else if value = 62 then a.symbol62
  else a.symbol63

def Alphabet.value? (a : Alphabet) (symbol : UInt8) : Option Nat :=
  let n := symbol.toNat
  if 65 ≤ n ∧ n ≤ 90 then some (n - 65)
  else if 97 ≤ n ∧ n ≤ 122 then some (n - 71)
  else if 48 ≤ n ∧ n ≤ 57 then some (n + 4)
  else if symbol = a.symbol62 then some 62
  else if symbol = a.symbol63 then some 63
  else none

/-- The symbols of a byte string: four for three bytes, two or three for a remainder. -/
def encode (a : Alphabet) : List UInt8 → List UInt8
  | x :: y :: z :: rest =>
    a.symbol (x.toNat / 4) :: a.symbol (x.toNat % 4 * 16 + y.toNat / 16) ::
      a.symbol (y.toNat % 16 * 4 + z.toNat / 64) :: a.symbol (z.toNat % 64) :: encode a rest
  | [x, y] =>
    [a.symbol (x.toNat / 4), a.symbol (x.toNat % 4 * 16 + y.toNat / 16),
      a.symbol (y.toNat % 16 * 4)]
  | [x] => [a.symbol (x.toNat / 4), a.symbol (x.toNat % 4 * 16)]
  | [] => []

/-- Why a text is not Base64. -/
inductive Fault where
  /-- A byte that is no symbol, at an offset. -/
  | badSymbol (symbol : UInt8) (offset : Nat)
  /-- One symbol is left over; the length counts it. -/
  | badLength (length : Nat)
  /-- The last symbol has bits that no byte needs. -/
  | badLastSymbol (symbol : UInt8) (offset : Nat)
  /-- Padding where none belongs. -/
  | badPadding
deriving DecidableEq, Repr

def Fault.message : Fault → String
  | badSymbol symbol offset =>
    "Invalid symbol " ++ toString symbol.toNat ++ ", offset " ++ toString offset ++ "."
  | badLength length => "Invalid input length: " ++ toString length
  | badLastSymbol symbol offset =>
    "Invalid last symbol " ++ toString symbol.toNat ++ ", offset " ++ toString offset ++ "."
  | badPadding => "Invalid padding"

/-- The sign that fills up a quartet where padding is used. -/
def padding : UInt8 := '='.toUInt8

/-- The value of the symbol at an offset. -/
def Alphabet.valueAt (a : Alphabet) (offset : Nat) (symbol : UInt8) : Except Fault Nat :=
  match a.value? symbol with
  | some value => .ok value
  | none => .error (.badSymbol symbol offset)

/-- The three bytes of four values. -/
def bytesOfQuartet (p q r s : Nat) : List UInt8 :=
  [UInt8.ofNat (p * 4 + q / 16), UInt8.ofNat (q % 16 * 16 + r / 4), UInt8.ofNat (r % 4 * 64 + s)]

/-- The bytes of the last, possibly incomplete, quartet. Padding signs are only looked at here: at
the end of a quartet of two or three symbols they are told from other bytes that are no symbols. -/
def decodeLast (a : Alphabet) (offset : Nat) : List UInt8 → Except Fault (List UInt8)
  | [] => .ok []
  | [w] => do
    let _ ← a.valueAt offset w
    .error (.badLength (offset + 1))
  | [w, x] => do
    let p ← a.valueAt offset w
    let q ← a.valueAt (offset + 1) x
    if q % 16 = 0 then .ok [UInt8.ofNat (p * 4 + q / 16)]
    else .error (.badLastSymbol x (offset + 1))
  | [w, x, y] => do
    let p ← a.valueAt offset w
    let q ← a.valueAt (offset + 1) x
    if y = padding then .error .badPadding
    else
      let r ← a.valueAt (offset + 2) y
      if r % 4 = 0 then
        .ok [UInt8.ofNat (p * 4 + q / 16), UInt8.ofNat (q % 16 * 16 + r / 4)]
      else .error (.badLastSymbol y (offset + 2))
  | [w, x, y, z] => do
    let p ← a.valueAt offset w
    let q ← a.valueAt (offset + 1) x
    if y = padding then
      if z = padding then .error .badPadding else .error (.badSymbol y (offset + 2))
    else
      let r ← a.valueAt (offset + 2) y
      if z = padding then .error .badPadding
      else
        let s ← a.valueAt (offset + 3) z
        .ok (bytesOfQuartet p q r s)
  | _ => .error (.badLength offset)

/-- The bytes from an offset on. -/
def decodeFrom (a : Alphabet) (offset : Nat) : List UInt8 → Except Fault (List UInt8)
  | w :: x :: y :: z :: next :: rest => do
    let p ← a.valueAt offset w
    let q ← a.valueAt (offset + 1) x
    let r ← a.valueAt (offset + 2) y
    let s ← a.valueAt (offset + 3) z
    let bytes ← decodeFrom a (offset + 4) (next :: rest)
    .ok (bytesOfQuartet p q r s ++ bytes)
  | last => decodeLast a offset last

/-- A byte left over alone at the end that is no symbol. It is noticed before anything else. -/
def strayEnd? (a : Alphabet) (text : List UInt8) : Option Fault :=
  if text.length % 4 = 1 then
    match text.getLast? with
    | some symbol =>
      if symbol ≠ padding ∧ a.value? symbol = none then
        some (.badSymbol symbol (text.length - 1))
      else none
    | none => none
  else none

/-- The bytes that a text stands for. -/
def decode (a : Alphabet) (text : List UInt8) : Except Fault (List UInt8) :=
  match strayEnd? a text with
  | some fault => .error fault
  | none => decodeFrom a 0 text

end Accounts.Base64
