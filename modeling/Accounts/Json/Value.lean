import Accounts.Json.Reader.Record

/-!
# JSON values

Values of any form: their compact text and their reader. The members of an object keep their order.
-/

namespace Accounts

/-- A JSON value. -/
inductive Json where
  | null
  | bool (value : Bool)
  | number (value : Json.Number)
  | text (value : String)
  | list (elements : List Json)
  | object (members : List (String × Json))

namespace Json

instance : Inhabited Json := ⟨.null⟩

def nat (n : Nat) : Json := .number (.natural n)

def int (n : Int) : Json := if n < 0 then .number (.negative n) else .number (.natural n.toNat)

/-- The value of a member of an object. -/
def get? (key : String) : Json → Option Json
  | .object members => members.lookup key
  | _ => none

/-! ## Writing -/

/-- Four lower-case hexadecimal digits. -/
def hexUnitText (n : Nat) : List Char :=
  let digits := Nat.toDigits 16 n
  List.replicate (4 - digits.length) '0' ++ digits

/-- A character as it stands in a JSON text: quotes, backslashes and control characters are
escaped, all others stand for themselves. -/
def escapeChar (c : Char) : List Char :=
  if c = '"' then ['\\', '"']
  else if c = '\\' then ['\\', '\\']
  else if c = '\x08' then ['\\', 'b']
  else if c = '\x0c' then ['\\', 'f']
  else if c = '\n' then ['\\', 'n']
  else if c = '\r' then ['\\', 'r']
  else if c = '\t' then ['\\', 't']
  else if c.toNat < 0x20 then '\\' :: 'u' :: hexUnitText c.toNat
  else [c]

/-- A text between quotes. -/
def quote (text : String) : List Char :=
  '"' :: (text.toList.flatMap escapeChar ++ ['"'])

def Number.write : Number → List Char
  | natural n => (toString n).toList
  | negative n => (toString n).toList
  | float (.finite s m e) => (floatText (.finite s m e)).toList
  | float _ => "null".toList

mutual

/-- The compact text of a value. -/
def write : Json → List Char
  | .null => "null".toList
  | .bool true => "true".toList
  | .bool false => "false".toList
  | .number n => n.write
  | .text s => quote s
  | .list elements => '[' :: writeElements elements
  | .object members => '\x7b' :: writeMembers members

/-- The elements of a list and its closing bracket. -/
def writeElements : List Json → List Char
  | [] => [']']
  | [v] => write v ++ [']']
  | v :: rest => write v ++ ',' :: writeElements rest

/-- The members of an object and its closing brace. -/
def writeMembers : List (String × Json) → List Char
  | [] => ['\x7d']
  | [(k, v)] => quote k ++ ':' :: (write v ++ ['\x7d'])
  | (k, v) :: rest => quote k ++ ':' :: (write v ++ ',' :: writeMembers rest)

end

/-- The compact text of a value. -/
def compact (value : Json) : String := String.ofList value.write

/-! ## Reading -/

namespace Reader

/-- A value of any form with less than `depth` nested brackets. -/
def value : Nat → Reader Json
  | 0 => failNext .tooDeep
  | depth + 1 => do
    let b ← valueStart
    if b == byte 'n' then do nullWord; pure .null
    else if b == byte 't' then do trueWord; pure (.bool true)
    else if b == byte 'f' then do falseWord; pure (.bool false)
    else if b == byte '-' || (digit? b).isSome then do pure (.number (← number))
    else if b == byte '"' then do pure (.text (← text))
    else if b == byte '[' then
      if depth == 0 then failNext .tooDeep
      else located (closedBy
        (do
          advance
          let found ← fun input =>
            elements (fun _ found => do pure ((← value depth) :: found)) (input.length + 1) 0
              [] input
          pure (.list found.reverse))
        listEnd)
    else if b == byte '\x7b' then
      if depth == 0 then failNext .tooDeep
      else located (closedBy
        (do
          advance
          let found ← fun input =>
            members (fun key found => do colon; pure ((key, ← value depth) :: found))
              (input.length + 1) true [] input
          pure (.object found.reverse))
        objectEnd)
    else failNext .wantsValue

end Reader

/-- The value a text stands for. Brackets may be nested 127 deep. -/
def parse (text : List UInt8) : Except Fault Json := Reader.run (Reader.value 128) text

/-! ## Values of a wanted form -/

/-- A value as it is described in a fault. -/
def found : Json → Found
  | .null => .null
  | .bool b => .bool b
  | .number n => n.found
  | .text s => .text s
  | .list _ => .sequence
  | .object _ => .map

/-- A value that has to be a text. -/
def asText (wanted : String) : Json → Except FormFault String
  | .text s => .ok s
  | v => .error (.wrongKind v.found wanted)

/-- A value that has to be a whole number of a range. -/
def asInteger (wanted : String) (fits : Int → Bool) : Json → Except FormFault Int
  | .number (.natural n) =>
    if fits n then .ok n else .error (.outOfRange (.natural n) wanted)
  | .number (.negative n) =>
    if fits n then .ok n else .error (.outOfRange (.negative n) wanted)
  | v => .error (.wrongKind v.found wanted)

/-- A value that has to be a truth value. -/
def asBool (wanted : String) : Json → Except FormFault Bool
  | .bool b => .ok b
  | v => .error (.wrongKind v.found wanted)

/-- A value that has to name one of several variants: a text, or an object whose only member has
that name and the value `null`. -/
def asVariant {α : Type} (known : List (String × α)) : Json → Except FormFault α
  | .text name => named name
  | .object [(name, inner)] => do
    let value ← named name
    match inner with
    | .null => pure value
    | v => .error (.wrongKind v.found "unit")
  | .object _ => .error (.outOfRange .map "map with a single key")
  | v => .error (.wrongKind v.found "string or map")
where
  /-- The variant of a name. -/
  named (name : String) : Except FormFault α :=
    match known.lookup name with
    | some value => .ok value
    | none => .error (.unknownVariant name (known.map (·.1)))

/-- The value of the field of a record, the record being an object. -/
def field {α : Type} (name : String) (read : Json → Except FormFault α)
    (members : List (String × Json)) : Except FormFault α :=
  match members.lookup name with
  | some v => read v
  | none => .error (.missingField name)

end Json

end Accounts
