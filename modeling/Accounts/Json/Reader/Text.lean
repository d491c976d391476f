import Accounts.Json.Reader
import Accounts.Text.Utf8

/-!
# Reading JSON texts

A text is read as the bytes between its quotes, escapes being replaced, and these bytes then have to
be UTF-8.
-/

namespace Accounts.Json

namespace Reader

def hexDigit? (b : UInt8) : Option Nat :=
  if 0x30 ≤ b ∧ b ≤ 0x39 then some (b.toNat - 0x30)
  else if 0x61 ≤ b ∧ b ≤ 0x66 then some (b.toNat - 0x57)
  else if 0x41 ≤ b ∧ b ≤ 0x46 then some (b.toNat - 0x37)
  else none

def hexUnit : Reader Nat := fun input =>
  match input with
  | a :: b :: c :: d :: rest =>
    match hexDigit? a, hexDigit? b, hexDigit? c, hexDigit? d with
    | some a, some b, some c, some d => .ok (((a * 16 + b) * 16 + c) * 16 + d) rest
    | _, _, _, _ => failHere .badEscape rest
  | _ => failHere .endInString []

/-- The next byte inside a text. -/
def textByte : Reader UInt8 := fun input =>
  match input with
  | [] => failHere .endInString []
  | b :: rest => .ok b rest

/-- The byte that has to come next inside a text, after the first unit of a surrogate pair. -/
def pairByte (wanted : UInt8) : Reader Unit := do
  let b ← textByte
  if b == wanted then pure () else failHere .unfinishedSurrogate

/-- The bytes of a code point written in hexadecimal, the `\u` having been read. Code points beyond
16 bits are written as two surrogates. -/
def hexEscape : Reader (List UInt8) := do
  let unit ← hexUnit
  if 0xdc00 ≤ unit ∧ unit ≤ 0xdfff then failHere .loneSurrogate
  else if 0xd800 ≤ unit ∧ unit ≤ 0xdbff then do
    pairByte (byte '\\')
    pairByte (byte 'u')
    let low ← hexUnit
    if 0xdc00 ≤ low ∧ low ≤ 0xdfff then
      pure (Utf8.encode (String.singleton
        (Char.ofNat (0x10000 + (unit - 0xd800) * 0x400 + (low - 0xdc00)))))
    else failHere .loneSurrogate
  else pure (Utf8.encode (String.singleton (Char.ofNat unit)))

/-- The byte that a one-letter escape stands for. -/
def simpleEscape? (b : UInt8) : Option UInt8 :=
  if b == byte '"' || b == byte '\\' || b == byte '/' then some b
  else if b == byte 'b' then some 0x08
  else if b == byte 'f' then some 0x0c
  else if b == byte 'n' then some 0x0a
  else if b == byte 'r' then some 0x0d
  else if b == byte 't' then some 0x09
  else none

/-- The bytes of an escape, the backslash having been read. -/
def escape : Reader (List UInt8) := do
  let b ← textByte
  if b == byte 'u' then hexEscape
  else match simpleEscape? b with
    | some b => pure [b]
    | none => failHere .badEscape

/-- The bytes of a text up to its closing quote, which stays unread; `read` holds the bytes so far
in reverse. The first argument bounds the number of characters. -/
def textBytes : Nat → List UInt8 → Reader (List UInt8)
  | 0, _, input => failHere .endInString input
  | fuel + 1, read, input =>
    match input with
    | [] => failHere .endInString []
    | b :: rest =>
      if b == byte '"' then .ok read.reverse (b :: rest)
      else if b == byte '\\' then
        (escape >>= fun bytes => textBytes fuel (bytes.reverse ++ read)) rest
      else if b < 0x20 then failHere .controlCharacter rest
      else textBytes fuel (b :: read) rest

/-- The bytes as a text. -/
def decoded (bytes : List UInt8) : Reader String :=
  match Utf8.decode? bytes with
  | some text => pure text
  | none => failHere .badUnicode

/-- A text, its opening quote being next. -/
def text : Reader String := do
  advance
  let bytes ← fun input => textBytes (input.length + 1) [] input
  let value ← decoded bytes
  advance
  pure value

end Reader

end Accounts.Json
