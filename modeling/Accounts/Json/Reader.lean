import Accounts.Json.Fault

/-!
# Reading JSON

A reader takes a value from the front of a byte string. It either ends with a value and the bytes
after it, or with a fault and the bytes at which it stopped; a reader that goes on after a fault
goes on from there. Values are read in the form in which they are wanted, so a value of the wrong
form is reported before anything that follows it.
-/

namespace Accounts.Json

/-- What a reader comes to. -/
inductive Outcome (α : Type) where
  | ok (value : α) (rest : List UInt8)
  | fault (fault : Fault) (rest : List UInt8)

/-- A reader of values at the front of a byte string. -/
def Reader (α : Type) := List UInt8 → Outcome α

namespace Reader

instance : Monad Reader where
  pure a := fun input => .ok a input
  bind r next := fun input =>
    match r input with
    | .ok a rest => next a rest
    | .fault f rest => .fault f rest

/-- A syntax fault at the current place. -/
def failHere {α : Type} (fault : SyntaxFault) : Reader α := fun input =>
  .fault ⟨.syntactic fault, some input.length, none⟩ input

/-- A syntax fault at the byte that comes next: its place is just after that byte. -/
def failNext {α : Type} (fault : SyntaxFault) : Reader α := fun input =>
  .fault ⟨.syntactic fault, some (input.length - 1), none⟩ input

/-- A fault of form, not located yet. -/
def failForm {α : Type} (fault : FormFault) : Reader α := fun input =>
  .fault ⟨.form fault, none, none⟩ input

/-- Locates a fault that has no place yet where the reader stopped. -/
def located {α : Type} (r : Reader α) : Reader α := fun input =>
  match r input with
  | .ok a rest => .ok a rest
  | .fault f rest => .fault { f with left := f.left.or (some rest.length) } rest

/-- Names the field in which a fault lies, unless it is named already. -/
def inField {α : Type} (name : String) (r : Reader α) : Reader α := fun input =>
  match r input with
  | .ok a rest => .ok a rest
  | .fault f rest => .fault { f with field := f.field.or (some name) } rest

/-- Reads with `r` and then the closing bracket with `close`. The bracket is read after a fault as
well; the first fault counts. -/
def closedBy {α : Type} (r : Reader α) (close : Reader Unit) : Reader α := fun input =>
  match r input with
  | .ok a rest =>
    match close rest with
    | .ok _ rest => .ok a rest
    | .fault f rest => .fault f rest
  | .fault f rest =>
    match close rest with
    | .ok _ rest => .fault f rest
    | .fault _ rest => .fault f rest

/-- The value of a reader that may fail; after a fault it is `none`, and reading goes on where the
reader stopped. -/
def attempt {α : Type} (r : Reader α) : Reader (Option α) := fun input =>
  match r input with
  | .ok a rest => .ok (some a) rest
  | .fault _ rest => .ok none rest

/-- The result of a check on what was read. -/
def ofExcept {α : Type} (result : Except FormFault α) : Reader α :=
  match result with
  | .ok a => pure a
  | .error f => failForm f

/-! ## White space and words -/

/-- The byte of an ASCII character. -/
@[inline] def byte (c : Char) : UInt8 := c.toUInt8

/-- The four bytes that may stand between tokens. -/
def isSpace (b : UInt8) : Bool := b == 0x20 || b == 0x0a || b == 0x09 || b == 0x0d

def space : Reader Unit := fun input => .ok () (input.dropWhile isSpace)

/-- The next byte after white space, which stays unread. -/
def peek : Reader (Option UInt8) := fun input =>
  let rest := input.dropWhile isSpace
  .ok rest.head? rest

def advance : Reader Unit := fun input => .ok () input.tail

/-- The remaining bytes of a word whose first byte has been recognised. -/
def word : List UInt8 → Reader Unit
  | [], input => .ok () input
  | _ :: _, [] => failHere .endInValue []
  | w :: ws, b :: rest => if b == w then word ws rest else failHere .wantsWord rest

/-- Reads `null`, its first letter having been seen. -/
def nullWord : Reader Unit := do advance; word [byte 'u', byte 'l', byte 'l']

/-- Reads `true`, its first letter having been seen. -/
def trueWord : Reader Unit := do advance; word [byte 'r', byte 'u', byte 'e']

/-- Reads `false`, its first letter having been seen. -/
def falseWord : Reader Unit := do advance; word [byte 'a', byte 'l', byte 's', byte 'e']

end Reader

end Accounts.Json
