import Accounts.Named
import Accounts.Number.Binary64
import Accounts.Text.Lowercase

/-!
# Trees of settings

Settings form a tree of named values. Trees are laid one over another: tables are merged, everything
else is replaced, and names are put into lower case on the way. Each value remembers where it was
written; a table that has been merged was written nowhere in particular.
-/

namespace Accounts

/-- A value that is no table and no list. -/
inductive Scalar where
  /-- A gap in a list. -/
  | blank
  | bool (value : Bool)
  | integer (value : Int)
  | float (value : Binary64)
  | text (value : String)
deriving DecidableEq, Repr

/-- A tree of settings. The origin is the place where a value was written, if it is known. -/
inductive Setting where
  | scalar (value : Scalar) (origin : Option String)
  | list (elements : List Setting) (origin : Option String)
  | table (entries : List (String × Setting)) (origin : Option String)

namespace Setting

def empty : Setting := .table [] none

/-- A gap in a list. -/
def blank : Setting := .scalar .blank none

/-- Where the value was written. -/
def origin : Setting → Option String
  | .scalar _ o => o
  | .list _ o => o
  | .table _ o => o

/-- The entries of a table; anything else has none. -/
def entries : Setting → Named Setting
  | .table entries _ => entries
  | _ => []

/-- The elements of a list; anything else has none. -/
def elements : Setting → List Setting
  | .list elements _ => elements
  | _ => []

/-- The origin of a table; anything else turned into a table has none. -/
def tableOrigin : Setting → Option String
  | .table _ o => o
  | _ => none

/-- The origin of a list; anything else turned into a list has none. -/
def listOrigin : Setting → Option String
  | .list _ o => o
  | _ => none

def get? (s : Setting) (name : String) : Option Setting := s.entries.lookup name

/-- Sets an entry. What is not a table becomes one. -/
def set (s : Setting) (name : String) (v : Setting) : Setting :=
  .table (Named.replace name v s.entries) s.tableOrigin

mutual

/-- Lays a value over the entry of a given name. A table is merged into what is there, anything else
replaces it. -/
def put (s : Setting) (name : String) : Setting → Setting
  | .table entries _ =>
    let key := Text.lowercase name
    s.set key (putAll ((s.get? key).getD empty) entries)
  | .scalar v o => s.set (Text.lowercase name) (.scalar v o)
  | .list vs o => s.set (Text.lowercase name) (.list vs o)

/-- Lays values over entries, one after another. -/
def putAll (s : Setting) : List (String × Setting) → Setting
  | [] => s
  | (name, v) :: rest => putAll (put s name v) rest

end

/-! ## What an entry is afterwards -/

/-- The entry that is set has its new value, and every other entry the value it had. -/
theorem get?_set (s v : Setting) (name other : String) :
    (s.set name v).get? other = if other = name then some v else s.get? other :=
  Named.lookup_replace name other v s.entries

/-- Laying a value over one entry leaves the others as they are. -/
theorem get?_put_of_ne (s v : Setting) {name other : String} (h : other ≠ Text.lowercase name) :
    (s.put name v).get? other = s.get? other := by
  cases v <;> simp [put, get?_set, h]

/-- What is not a table replaces the entry. -/
theorem get?_put_scalar (s : Setting) (name : String) (v : Scalar) (o : Option String) :
    (s.put name (.scalar v o)).get? (Text.lowercase name) = some (.scalar v o) := by
  simp [put, get?_set]

end Setting

end Accounts
