import Accounts.Json.Reader.Skip

/-!
# Reading JSON values of a wanted form

Readers for texts, whole numbers, choices, objects and records. A record is an object with known
fields, or a list of their values in order; fields that are not known are skipped.
-/

namespace Accounts.Json

namespace Reader

/-- The fault of meeting a value of another kind. Scalars are read, brackets stay unread. -/
def wrongKind {α : Type} (wanted : String) : Reader α := located do
  match ← peek with
  | none => failNext .wantsValue
  | some b =>
    if b == byte 'n' then do nullWord; failForm (.wrongKind .null wanted)
    else if b == byte 't' then do trueWord; failForm (.wrongKind (.bool true) wanted)
    else if b == byte 'f' then do falseWord; failForm (.wrongKind (.bool false) wanted)
    else if b == byte '-' || (digit? b).isSome then do
      failForm (.wrongKind (← number).found wanted)
    else if b == byte '"' then do failForm (.wrongKind (.text (← text)) wanted)
    else if b == byte '[' then failForm (.wrongKind .sequence wanted)
    else if b == byte '\x7b' then failForm (.wrongKind .map wanted)
    else failNext .wantsValue

/-- The byte that is next; a text that ends inside a value is a fault. -/
def demand : Option UInt8 → Reader UInt8
  | some b => pure b
  | none => failNext .endInValue

/-- The next byte of a value. -/
def valueStart : Reader UInt8 := do demand (← peek)

def string (wanted : String) : Reader String := do
  if (← valueStart) == byte '"' then text else wrongKind wanted

/-- A whole number of a range. -/
def integer (wanted : String) (fits : Int → Bool) : Reader Int := do
  let b ← valueStart
  if b == byte '-' || (digit? b).isSome then located do
    match ← number with
    | .natural n => if fits n then pure n else failForm (.outOfRange (.natural n) wanted)
    | .negative n => if fits n then pure n else failForm (.outOfRange (.negative n) wanted)
    | .float x => failForm (.wrongKind (.float x) wanted)
  else wrongKind wanted

def optional {α : Type} (r : Reader α) : Reader (Option α) := do
  match ← peek with
  | some b => if b == byte 'n' then do nullWord; pure none else do pure (some (← r))
  | none => do pure (some (← r))

/-- The value `null`, called a unit. -/
def unit : Reader Unit := do
  if (← valueStart) == byte 'n' then nullWord else wrongKind "unit"

def objectEnd : Reader Unit := do
  match ← peek with
  | some b =>
    if b == byte '\x7d' then advance
    else if b == byte ',' then failNext .trailingComma
    else failNext .trailingCharacters
  | none => failNext .endInObject

def listEnd : Reader Unit := do
  match ← peek with
  | some b =>
    if b == byte ']' then advance
    else if b == byte ',' then do
      advance
      if (← peek) == some (byte ']') then failNext .trailingComma
      else failNext .trailingCharacters
    else failNext .trailingCharacters
  | none => failNext .endInList

/-- The key of the next member of an object, or `none` at its end, which stays unread. -/
def nextKey (first : Bool) : Reader (Option String) := do
  match ← peek with
  | none => failNext .endInObject
  | some b =>
    if b == byte '\x7d' then pure none
    else if first then
      if b == byte '"' then do pure (some (← text)) else failNext .wantsKey
    else if b == byte ',' then do
      advance
      match ← peek with
      | none => failNext .endInValue
      | some c =>
        if c == byte '"' then do pure (some (← text))
        else if c == byte '\x7d' then failNext .trailingComma
        else failNext .wantsKey
    else failNext .wantsObjectSeparator

/-- Whether a list has a further element; its end stays unread. -/
def nextElement (first : Bool) : Reader Bool := do
  match ← peek with
  | none => failNext .endInList
  | some b =>
    if b == byte ']' then pure false
    else if first then pure true
    else if b == byte ',' then do
      advance
      match ← peek with
      | none => failNext .endInValue
      | some c => if c == byte ']' then failNext .trailingComma else pure true
    else failNext .wantsListSeparator

/-- Folds the members of an object. `member` reads the colon and the value after a key. The first
argument bounds the number of members. -/
def members {σ : Type} (member : String → σ → Reader σ) : Nat → Bool → σ → Reader σ
  | 0, _, _ => failNext .endInObject
  | fuel + 1, first, state => do
    match ← nextKey first with
    | none => pure state
    | some key => members member fuel false (← member key state)

/-- Folds the elements of a list. The first argument bounds the number of elements. -/
def elements {σ : Type} (element : Nat → σ → Reader σ) : Nat → Nat → σ → Reader σ
  | 0, _, _ => failNext .endInList
  | fuel + 1, index, state => do
    if ← nextElement (index == 0) then
      elements element fuel (index + 1) (← element index state)
    else pure state

/-- An object read member by member. -/
def object {σ α : Type} (wanted : String) (member : String → σ → Reader σ) (start : σ)
    (finish : σ → Except FormFault α) : Reader α := do
  if (← valueStart) == byte '\x7b' then
    located (closedBy
      (do
        advance
        let state ← fun input => members member (input.length + 1) true start input
        ofExcept (finish state))
      objectEnd)
  else wrongKind wanted

/-- The element of a list at a given index; its absence is a fault of length. -/
def elementAt {α : Type} (index : Nat) (wanted : String) (r : Reader α) : Reader α := do
  if ← nextElement (index == 0) then inField ("[" ++ toString index ++ "]") r
  else failForm (.wrongLength index wanted)

/-- A record: an object, or a list of its fields in order. -/
def record {σ α : Type} (wanted : String) (member : String → σ → Reader σ) (start : σ)
    (finish : σ → Except FormFault α) (positional : Reader α) : Reader α := do
  if (← valueStart) == byte '[' then
    located (closedBy (do advance; positional) listEnd)
  else object wanted member start finish

/-- The value of a field that may be given only once. -/
def field {α : Type} (name : String) (old : Option α) (r : Reader α) : Reader (Option α) := do
  if old.isSome then failForm (.duplicateField name)
  else inField name do
    colon
    pure (some (← r))

/-- The value of a field that does not matter. -/
def ignoredField (name : String) : Reader Unit := inField name do
  colon
  skip

/-- The name of one of several variants. It is a text, or the key of an object whose only value is
`null`. -/
def variant {α : Type} (known : List (String × α)) : Reader α := do
  let b ← valueStart
  if b == byte '"' then named
  else if b == byte '\x7b' then do
    advance
    let value ← named
    colon
    unit
    match ← peek with
    | some c => if c == byte '\x7d' then do advance; pure value else failHere .wantsValue
    | none => failHere .endInObject
  else failNext .wantsValue
where
  /-- The name itself. -/
  named : Reader α := located do
    let name ← string "variant identifier"
    match known.lookup name with
    | some value => pure value
    | none => failForm (.unknownVariant name (known.map (·.1)))

/-- The end of the text, white space apart. -/
def finished : Reader Unit := do
  match ← peek with
  | some _ => failNext .trailingCharacters
  | none => pure ()

/-- Reads a whole text. -/
def run {α : Type} (r : Reader α) (input : List UInt8) : Except Fault α :=
  match (do let a ← r; finished; pure a : Reader α) input with
  | .ok a _ => .ok a
  | .fault f _ => .error f

/-- Reads a value at the front of a text; what follows is not looked at. -/
def runFront {α : Type} (r : Reader α) (input : List UInt8) : Except Fault α :=
  match r input with
  | .ok a _ => .ok a
  | .fault f _ => .error f

end Reader

end Accounts.Json
