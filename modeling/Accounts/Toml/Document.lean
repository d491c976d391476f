import Accounts.Toml.Value

/-!
# TOML documents

A document is a list of lines: assignments, headers of tables, and lines that say nothing. Values
and comments may go on over several lines of text. The assignments after a header belong to its
table.
-/

namespace Accounts.Toml

/-- What a line says. -/
inductive Line where
  | nothing
  | assignment (path : List String) (key : String) (value : Toml)
  | header (path : List String) (key : String)
  /-- The header of one more table of a list of tables. -/
  | elementHeader (path : List String) (key : String)

namespace Reader

/-- What a line says, with its end. -/
def line : Reader Line := do
  blanks
  let said ← elementHeader <|> header <|> assigned <|> pure .nothing
  lineEnd
  pure said
where
  /-- A header between two pairs of brackets. -/
  elementHeader : Reader Line := do
    word "[["
    let (path, key) ← key
    word "]]"
    pure (.elementHeader path key)
  /-- A header between brackets. -/
  header : Reader Line := do
    char '['
    let (path, key) ← key
    char ']'
    pure (.header path key)
  /-- An assignment. -/
  assigned : Reader Line := do
    let ((path, key), v) ← assignment (value nestingLimit)
    pure (.assignment path key v)

/-- The lines of a document. The first argument bounds their number. -/
def lines : Nat → Reader (List Line)
  | 0 => failure
  | fuel + 1 => do
    let first ← line
    match ← peek with
    | none => pure [first]
    | some _ => pure (first :: (← lines fuel))

end Reader

/-- A document while it is read: its entries and the path of the current table. -/
structure Growth where
  entries : Named Node
  current : List String

/-- Adds what a line says. -/
def Growth.add (g : Growth) : Line → Option Growth
  | .nothing => some g
  | .assignment path key v => do
    pure { g with entries := ← Node.atHeader (Node.assign key v path) g.current g.entries }
  | .header path key => do
    pure ⟨← Node.atHeader (Node.openTable key) path g.entries, path ++ [key]⟩
  | .elementHeader path key => do
    pure ⟨← Node.atHeader (Node.openElement key) path g.entries, path ++ [key]⟩

/-- The entries of a document. A byte order mark may stand before it. -/
def parse (text : String) : Option (Named Toml) := do
  let cs :=
    match text.toList with
    | '\ufeff' :: rest => rest
    | cs => cs
  let (lines, _) ← Reader.lines (cs.length + 1) cs
  let g ← lines.foldlM Growth.add ⟨[], []⟩
  pure (tomlOfEntries g.entries)

end Accounts.Toml
