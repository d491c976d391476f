import Accounts.Text.Hidden

/-!
# Quoted text

A text between double quotes as it appears in messages: quotes, backslashes and characters that do
not show are escaped, so that the quoted form is one visible line.
-/

namespace Accounts.Text

/-- A code point in the form `\u{…}`, in lower-case hexadecimal without leading zeros. -/
def escapeCode (c : Char) : List Char :=
  ['\\', 'u', '\x7b'] ++ Nat.toDigits 16 c.toNat ++ ['\x7d']

/-- A character as it stands between double quotes. -/
def escapeChar (c : Char) : List Char :=
  if c = '"' then ['\\', '"']
  else if c = '\\' then ['\\', '\\']
  else if c = '\n' then ['\\', 'n']
  else if c = '\r' then ['\\', 'r']
  else if c = '\t' then ['\\', 't']
  else if c = '\x00' then ['\\', '0']
  else if isHidden c then escapeCode c
  else [c]

/-- The quoted form of a text. -/
def quoted (text : String) : String :=
  "\"" ++ String.ofList (text.toList.flatMap escapeChar) ++ "\""

end Accounts.Text
