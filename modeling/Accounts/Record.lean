import Accounts.Json.Fault

/-!
# Records

A record is a value made of named fields. The form of a record lists its fields in order, each with
its own reader, and is written once for every kind of tree that records are read from.

The fields that are given are read first, in the order in which they are given; fields that are
missing are noticed after that, in the order of the form. A list is read as a record too: its
elements are the fields in order.
-/

namespace Accounts.Record

/-- What a value is to one who wants a record. -/
inductive Shape (V : Type) where
  | fields (members : List (String × V))
  | elements (values : List V)
  | other (found : Json.Found)

/-- How values of a kind of tree are read, with faults `ε`. -/
structure Source (V ε : Type) where
  shape : V → Shape V
  text : V → Except ε String
  /-- An unsigned number of so many bits. -/
  natural : Nat → V → Except ε Nat
  /-- A signed number of 64 bits. -/
  integer : V → Except ε Int
  bool : V → Except ε Bool
  /-- The fault of a value that is no record of the wanted form. -/
  malformed : Json.FormFault → ε
  /-- Whether a list may not have more elements than the record has fields. -/
  refusesSurplus : Bool

/-- The fields of a record and the value made of them. -/
structure Form (V ε α : Type) where
  names : List String
  /-- Reads a field only to see whether it can be read. -/
  check : String → V → Except ε Unit
  /-- Reads the fields in order. The second argument is the fault of a missing field. -/
  build : (String → Option V) → (String → ε) → Except ε α

namespace Form

variable {V ε α β : Type}

/-- The record without fields. -/
def start (a : α) : Form V ε α where
  names := []
  check := fun _ _ => .ok ()
  build := fun _ _ => .ok a

/-- One more field. -/
def field (form : Form V ε (β → α)) (name : String) (read : V → Except ε β) : Form V ε α where
  names := form.names ++ [name]
  check := fun key v => if key == name then (read v).map fun _ => () else form.check key v
  build := fun get missing => do
    let make ← form.build get missing
    match get name with
    | some v => (read v).map make
    | none => .error (missing name)

/-- One more field, with a value for its absence. -/
def fieldOr (form : Form V ε (β → α)) (name : String) (read : V → Except ε β) (absent : β) :
    Form V ε α where
  names := form.names ++ [name]
  check := fun key v => if key == name then (read v).map fun _ => () else form.check key v
  build := fun get missing => do
    let make ← form.build get missing
    match get name with
    | some v => (read v).map make
    | none => .ok (make absent)

/-- Reads a record called `wanted` in messages. -/
def read (form : Form V ε α) (source : Source V ε) (wanted : String) (v : V) : Except ε α :=
  match source.shape v with
  | .fields members => do
    members.forM fun (key, v) => form.check key v
    form.build (fun name => members.lookup name) fun name =>
      source.malformed (.missingField name)
  | .elements values => do
    let size := form.names.length
    let a ← form.build (fun name => (form.names.zip values).lookup name) fun _ =>
      source.malformed (.wrongLength values.length
        (wanted ++ " with " ++ toString size ++ (if size == 1 then " element" else " elements")))
    if source.refusesSurplus && size < values.length then
      .error (source.malformed (.wrongLength values.length "fewer elements in array"))
    else pure a
  | .other found => .error (source.malformed (.wrongKind found wanted))

end Form

end Accounts.Record
