import Accounts.Configuration.Setting
import Accounts.Number.Integer
import Accounts.Text.Split

/-!
# Paths in trees of settings

A name such as `server.http_port` or `hosts[0].name` leads to a place in a tree. Setting a value at
a path makes the tables and lists on the way.
-/

namespace Accounts.Setting

/-- One step of a path. -/
inductive Step where
  /-- The entry of a table. -/
  | child (name : String)
  /-- The element of a list; a negative index counts from its end. -/
  | element (index : Int)
deriving DecidableEq, Repr

/-- A path from the root of a tree: the name of an entry there, and steps from it. -/
structure Path where
  root : String
  steps : List Step
deriving DecidableEq, Repr

namespace Path

/-! ## Reading -/

/-- Whether a character may occur in a name. -/
def isNameChar (c : Char) : Bool :=
  c.isAlphanum || c == ' ' || c == '_' || c == '-'

/-- A name at the front of a text. -/
def name? (cs : List Char) : Option (String × List Char) :=
  match cs.takeWhile isNameChar with
  | [] => none
  | name => some (String.ofList name, cs.dropWhile isNameChar)

/-- Whether a character is a blank between brackets. -/
def isBlank (c : Char) : Bool := c == ' ' || c == '\t'

/-- The number between brackets. -/
def index? (cs : List Char) : Option Int :=
  let inner := (cs.dropWhile isBlank).reverse.dropWhile isBlank |>.reverse
  if inner.head? == some '+' then none else (Integer.parseInt Integer.maxSigned64 inner).toOption

/-- The steps a text stands for. The first argument bounds their number. -/
def steps? : Nat → List Char → Option (List Step)
  | _, [] => some []
  | 0, _ => none
  | fuel + 1, '.' :: rest => do
    let (name, rest) ← name? rest
    pure (.child name :: (← steps? fuel rest))
  | fuel + 1, '[' :: rest => do
    let (inner, rest) ← Text.splitFirst ']' rest
    pure (.element (← index? inner) :: (← steps? fuel rest))
  | _, _ => none

/-- The path a text stands for. -/
def ofText? (text : String) : Option Path := do
  let (root, rest) ← name? text.toList
  pure ⟨root, ← steps? rest.length rest⟩

end Path

/-! ## Setting a value -/

/-- The place of an element in a list of a given length. -/
def place (index : Int) (length : Nat) : Nat :=
  if 0 ≤ index then index.toNat else length - index.natAbs

/-- A list with one element replaced, gaps being filled. -/
def setElement (vs : List Setting) (i : Nat) (v : Setting) : List Setting :=
  (vs ++ List.replicate (i + 1 - vs.length) blank).set i v

/-- Sets a value at the end of some steps. Names on the way are taken as they are; the last one is
put into lower case. -/
def setAfter (v : Setting) : List Step → Setting → Setting
  | [], _ => v
  | [.child name], s => s.put name v
  | .child name :: steps, s => s.set name (setAfter v steps ((s.get? name).getD blank))
  | .element index :: steps, s =>
    let i := place index s.elements.length
    .list (setElement s.elements i (setAfter v steps (s.elements.getD i blank))) s.listOrigin

/-- Sets a value at a path. -/
def setAt (s : Setting) (path : Path) (v : Setting) : Setting :=
  setAfter v (.child path.root :: path.steps) s

/-- Sets a value under a name. The name is read as a path if it is one. -/
def assign (s : Setting) (name : String) (v : Setting) : Setting :=
  match Path.ofText? name with
  | some path => s.setAt path v
  | none => s.put name v

/-- Lays the entries of a layer over a tree, their names being read as paths. -/
def overlay (s : Setting) (layer : Named Setting) : Setting :=
  layer.foldl (fun s (name, v) => s.assign name v) s

end Accounts.Setting
