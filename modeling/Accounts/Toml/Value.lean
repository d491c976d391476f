import Accounts.Named
import Accounts.Toml.Moment
import Accounts.Toml.Number
import Accounts.Toml.Text

/-!
# TOML documents as trees

A tree grows while a document is read, and it remembers how each table came to be: a table may be
opened by one header only, and tables made by dotted keys and tables opened by headers do not mix.
Values between braces grow by the same rules.
-/

namespace Accounts

/-- A value of TOML. -/
inductive Toml where
  | text (value : String)
  | number (value : Toml.Number)
  | bool (value : Bool)
  | moment (value : Toml.Moment)
  | list (elements : List Toml)
  | table (entries : List (String × Toml))

namespace Toml

/-- How a table came to be. -/
inductive TableKind where
  /-- It was opened by a header of its own. -/
  | opened
  /-- It lies on the way to a table with a header. -/
  | implied
  /-- It lies on the way to a value with a dotted key. -/
  | dotted
deriving DecidableEq, Repr

/-- A node of a growing tree. -/
inductive Node where
  | value (value : Toml)
  | table (kind : TableKind) (entries : List (String × Node))
  /-- A list of tables with headers of their own. -/
  | tables (elements : List (List (String × Node)))

namespace Node

/-- Changes the entries of the table that a header's path leads to. Of a list of tables the last one
is meant; tables that are missing on the way are implied. -/
def atHeader (change : Named Node → Option (Named Node)) :
    List String → Named Node → Option (Named Node)
  | [], entries => change entries
  | key :: path, entries =>
    match entries.lookup key with
    | none => do
      pure (Named.replace key (.table .implied (← atHeader change path [])) entries)
    | some (.table kind inner) => do
      pure (Named.replace key (.table kind (← atHeader change path inner)) entries)
    | some (.tables elements) => do
      let inner ← atHeader change path (elements.getLastD [])
      pure (Named.replace key (.tables (elements.dropLast ++ [inner])) entries)
    | some (.value _) => none

/-- Opens a table by its header. -/
def openTable (key : String) (entries : Named Node) : Option (Named Node) :=
  match entries.lookup key with
  | none => some (Named.replace key (.table .opened []) entries)
  | some (.table .implied inner) => some (Named.replace key (.table .opened inner) entries)
  | some _ => none

/-- Opens one more table of a list of tables. -/
def openElement (key : String) (entries : Named Node) : Option (Named Node) :=
  match entries.lookup key with
  | none => some (Named.replace key (.tables [[]]) entries)
  | some (.tables elements) => some (Named.replace key (.tables (elements ++ [[]])) entries)
  | some _ => none

/-- Gives a value to a key. -/
def assignKey (key : String) (v : Toml) (entries : Named Node) : Option (Named Node) :=
  match entries.lookup key with
  | none => some (Named.replace key (.value v) entries)
  | some _ => none

/-- Gives a value to a dotted key. The keys on the way make tables, or lead to tables that dotted
keys have made. -/
def assign (key : String) (v : Toml) : List String → Named Node → Option (Named Node)
  | [], entries => assignKey key v entries
  | step :: path, entries =>
    match entries.lookup step with
    | none => do
      pure (Named.replace step (.table .dotted (← assign key v path [])) entries)
    | some (.table kind inner) => do
      guard (kind == .dotted || (kind == .implied && !path.isEmpty))
      pure (Named.replace step (.table kind (← assign key v path inner)) entries)
    | some (.tables elements) => do
      guard (!path.isEmpty)
      let inner ← assign key v path (elements.getLastD [])
      pure (Named.replace step (.tables (elements.dropLast ++ [inner])) entries)
    | some (.value _) => none

end Node

mutual

/-- The value of a node. -/
def Node.toToml : Node → Toml
  | .value v => v
  | .table _ entries => .table (tomlOfEntries entries)
  | .tables elements => .list (tomlOfTables elements)

def tomlOfEntries : List (String × Node) → List (String × Toml)
  | [] => []
  | (key, node) :: rest => (key, node.toToml) :: tomlOfEntries rest

def tomlOfTables : List (List (String × Node)) → List Toml
  | [] => []
  | entries :: rest => .table (tomlOfEntries entries) :: tomlOfTables rest

end

namespace Reader

/-! ## Keys -/

/-- A key without dots. -/
def simpleKey : Reader String :=
  basicText <|> literalText <|> do
    let first ← satisfy isKeyChar
    pure (String.ofList (first :: (← takeWhile isKeyChar)))
where
  /-- Whether a character may stand in a key without quotes. -/
  isKeyChar (c : Char) : Bool := c.isAlphanum || c == '-' || c == '_'

/-- The most that brackets may be nested, and the most keys that dots may join. -/
def nestingLimit : Nat := 79

/-- A dotted key: the keys on the way and the last one. -/
def key : Reader (List String × String) := do
  let keys ← separated (do blanks; let k ← simpleKey; blanks; pure k) (char '.')
  match keys.getLast? with
  | some last => if keys.length ≤ nestingLimit then pure (keys.dropLast, last) else failure
  | none => failure

/-! ## Values -/

def bool : Reader Bool :=
  (do word "true"; pure true) <|> (do word "false"; pure false)

/-- A value without brackets. -/
def plain : Reader Toml :=
  (Toml.text <$> string) <|> (Toml.moment <$> moment) <|> (Toml.number <$> number) <|>
    (Toml.bool <$> bool)

/-- A list, given its elements' reader. -/
def list (element : Reader Toml) : Reader Toml := do
  char '['
  let elements ← optional (separated (do space; let v ← element; space; pure v) (char ','))
  if elements.isSome then
    let _ ← optional (char ',')
  space
  char ']'
  pure (.list (elements.getD []))

/-- A key and its value. -/
def assignment (value : Reader Toml) : Reader ((List String × String) × Toml) := do
  let k ← key
  char '='
  blanks
  pure (k, ← value)

/-- A table between braces, given its values' reader. -/
def inlineTable (value : Reader Toml) : Reader Toml := do
  char '\x7b'
  let assignments ← optional (separated (do
    let a ← assignment value
    blanks
    pure a) (char ','))
  blanks
  char '\x7d'
  let entries ← (assignments.getD []).foldlM (fun (entries : Named Node) ((path, key), v) =>
    Node.assign key v path entries) []
  pure (Node.table .opened entries).toToml

/-- A value with brackets nested to a given depth at most. -/
def value : Nat → Reader Toml
  | 0 => plain
  | depth + 1 => list (value depth) <|> inlineTable (value depth) <|> plain

end Reader

end Toml

end Accounts
