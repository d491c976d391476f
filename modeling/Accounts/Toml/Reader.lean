/-!
# Reading TOML

A reader takes something from the front of a list of characters, or fails. Only whether a document
can be read matters, so a failure says nothing more, and a choice tries its second reader where the
first one began.
-/

namespace Accounts.Toml

/-- A reader of something at the front of a text. -/
abbrev Reader := StateT (List Char) Option

namespace Reader

/-- The next character, which stays unread. -/
def peek : Reader (Option Char) := fun cs => some (cs.head?, cs)

/-- A character that fulfils a condition. -/
def satisfy (p : Char → Bool) : Reader Char
  | c :: cs => if p c then some (c, cs) else none
  | [] => none

def char (c : Char) : Reader Unit := do
  let _ ← satisfy (· == c)

def word (w : String) : Reader Unit := w.toList.forM char

/-- The longest run of characters that fulfil a condition. -/
def takeWhile (p : Char → Bool) : Reader (List Char) := fun cs =>
  some (cs.takeWhile p, cs.dropWhile p)

/-- A given number of characters that fulfil a condition. -/
def exactly (p : Char → Bool) : Nat → Reader (List Char)
  | 0 => pure []
  | n + 1 => do
    let c ← satisfy p
    pure (c :: (← exactly p n))

/-- What a reader takes, if it can take something. -/
def optional {α : Type} (r : Reader α) : Reader (Option α) := (some <$> r) <|> pure none

/-- What a reader takes time and again, as long as it can, but a given number of times at most. -/
def manyUpTo {α : Type} (r : Reader α) : Nat → Reader (List α)
  | 0 => pure []
  | fuel + 1 => (do
    let a ← r
    pure (a :: (← manyUpTo r fuel))) <|> pure []

/-- What a reader takes time and again, as long as it can. A reader that takes a character each time
can do so no more often than there are characters. -/
def many {α : Type} (r : Reader α) : Reader (List α) := fun cs => manyUpTo r cs.length cs

/-- One or more values with something between them. -/
def separated {α : Type} (r : Reader α) (separator : Reader Unit) : Reader (List α) := do
  let first ← r
  let others ← many (do separator; r)
  pure (first :: others)

/-! ## Between values -/

/-- Whether a character is a blank. -/
def isBlank (c : Char) : Bool := c == ' ' || c == '\t'

/-- Blanks, or nothing. -/
def blanks : Reader Unit := do
  let _ ← takeWhile isBlank

/-- The end of a line that is not the last one. -/
def newline : Reader Unit := char '\n' <|> word "\r\n"

/-- The end of the text. -/
def finished : Reader Unit
  | [] => some ((), [])
  | _ => none

/-- Whether a character may stand in a comment or, unescaped, in a string: no control character is
allowed but the tabulator. -/
def isTextChar (c : Char) : Bool := c == '\t' || (0x20 ≤ c.toNat && c.toNat != 0x7f)

/-- A comment up to the end of its line. -/
def comment : Reader Unit := do
  char '#'
  let _ ← takeWhile isTextChar

/-- The rest of a line after what it says, with its end. -/
def lineEnd : Reader Unit := do
  blanks
  let _ ← optional comment
  newline <|> finished

/-- Blanks, comments and ends of lines, or nothing. -/
def space : Reader Unit := do
  let _ ← many ((do let _ ← satisfy isBlank) <|> newline <|> comment)

end Reader

end Accounts.Toml
