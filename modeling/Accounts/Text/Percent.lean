import Accounts.Text.Utf8

/-!
# Percent encoding

Bytes that may not stand for themselves are written as `%` and two hexadecimal digits.
-/

namespace Accounts.Percent

def hexDigit (n : Nat) : Char := if n < 10 then Char.ofNat (48 + n) else Char.ofNat (55 + n)

/-- The value of a hexadecimal digit in either case. -/
def hexValue? (b : UInt8) : Option UInt8 :=
  if 48 ≤ b ∧ b ≤ 57 then some (b - 48)
  else if 65 ≤ b ∧ b ≤ 70 then some (b - 55)
  else if 97 ≤ b ∧ b ≤ 102 then some (b - 87)
  else none

/-- A byte as `%` and two digits. -/
def encodeByte (b : UInt8) : List Char :=
  ['%', hexDigit (b.toNat / 16), hexDigit (b.toNat % 16)]

/-- Encodes the bytes that `keeps` does not keep; kept ones have to be ASCII. -/
def encode (keeps : UInt8 → Bool) (bytes : List UInt8) : List Char :=
  bytes.flatMap fun b => if keeps b then [Char.ofNat b.toNat] else encodeByte b

/-- Decodes; a `%` without two digits after it stands for itself. -/
def decode : List UInt8 → List UInt8
  | [] => []
  | b :: rest =>
    if b = 37 then
      match rest with
      | h :: l :: rest' =>
        match hexValue? h, hexValue? l with
        | some high, some low => (high * 16 + low) :: decode rest'
        | _, _ => b :: decode (h :: l :: rest')
      | rest => b :: decode rest
    else b :: decode rest

end Accounts.Percent
