import Accounts.Toml.Reader

/-!
# Strings of TOML

Basic strings have escapes, literal strings have none; either kind may stand on one line or, between
three quotes, on several. On several lines a first end of line does not count, every other one is a
line feed, and a backslash at the end of a line joins it with what comes next.
-/

namespace Accounts.Toml.Reader

def hexDigit? (c : Char) : Option Nat :=
  if '0' ≤ c && c ≤ '9' then some (c.toNat - '0'.toNat)
  else if 'a' ≤ c && c ≤ 'f' then some (c.toNat - 'a'.toNat + 10)
  else if 'A' ≤ c && c ≤ 'F' then some (c.toNat - 'A'.toNat + 10)
  else none

/-- A character given by its code point in a given number of hexadecimal digits. -/
def codePoint (digits : Nat) : Reader Char := do
  let ds ← exactly (fun c => (hexDigit? c).isSome) digits
  let n := ds.foldl (fun n c => n * 16 + (hexDigit? c).getD 0) 0
  if h : n.isValidChar then pure ⟨n.toUInt32, by
    rcases h with h | ⟨h, h'⟩ <;> simp [UInt32.isValidChar, Nat.isValidChar] <;> omega⟩
  else failure

/-- The character of an escape, its backslash having been taken. -/
def escape : Reader Char := do
  match ← satisfy fun _ => true with
  | 'b' => pure '\x08'
  | 't' => pure '\t'
  | 'n' => pure '\n'
  | 'f' => pure '\x0c'
  | 'r' => pure '\r'
  | '"' => pure '"'
  | '\\' => pure '\\'
  | 'u' => codePoint 4
  | 'U' => codePoint 8
  | _ => failure

/-- A character or an escape between basic quotes. -/
def basicChar : Reader Char :=
  (satisfy fun c => isTextChar c && c != '"' && c != '\\') <|> (do char '\\'; escape)

/-- A basic string on one line. -/
def basicText : Reader String := do
  char '"'
  let cs ← many basicChar
  char '"'
  pure (String.ofList cs)

/-- A literal string on one line. -/
def literalText : Reader String := do
  char '\''
  let cs ← takeWhile fun c => isTextChar c && c != '\''
  char '\''
  pure (String.ofList cs)

/-- A line break between the lines of a string. -/
def brokenLine : Reader (List Char) := do
  newline
  pure ['\n']

/-- A backslash at the end of a line, with the white space after it. -/
def joinedLine : Reader (List Char) := do
  char '\\'
  blanks
  newline
  let _ ← many ((do let _ ← satisfy isBlank) <|> newline)
  pure []

/-- One or two quotes that do not end a string of several lines. -/
def looseQuotes (quote : Char) : Reader (List Char) := fun cs =>
  let run := cs.takeWhile (· == quote)
  if run.length == 1 || run.length == 2 then some (run, cs.dropWhile (· == quote)) else none

/-- The closing three quotes. Up to two more before them belong to the string. -/
def closingQuotes (quote : Char) : Reader (List Char) := fun cs =>
  let run := cs.takeWhile (· == quote)
  if 3 ≤ run.length && run.length ≤ 5 then
    some (run.drop 3, cs.dropWhile (· == quote))
  else none

/-- A string of several lines, made of parts. -/
def linesText (quote : Char) (part : Reader (List Char)) : Reader String := do
  let _ ← exactly (· == quote) 3
  let _ ← optional newline
  let parts ← many (looseQuotes quote <|> part)
  let last ← closingQuotes quote
  pure (String.ofList (parts.flatten ++ last))

/-- A basic string on several lines. -/
def basicLines : Reader String :=
  linesText '"' ((do pure [← basicChar]) <|> joinedLine <|> brokenLine)

/-- A literal string on several lines. -/
def literalLines : Reader String :=
  linesText '\'' ((do pure [← satisfy fun c => isTextChar c && c != '\'']) <|> brokenLine)

/-- A string of any kind. -/
def string : Reader String := basicLines <|> basicText <|> literalLines <|> literalText

end Accounts.Toml.Reader
