import Accounts.Number.Integer
import Accounts.Text.Base64
import Accounts.Text.Split
import Accounts.Text.Utf8

/-!
# PHC strings

The text form of a stored hash: an algorithm, and optionally a version, parameters, a salt and a
key, each after a dollar sign. `parse` reads it field by field from the left, and the first fault
counts; `render` writes it.
-/

namespace Accounts.Password

/-- What is wrong with a value in a PHC string. -/
inductive ValueFault where
  | tooShort
  | tooLong
  | badCharacter (c : Char)
  | malformed
  | badFormat
deriving DecidableEq, Repr

def ValueFault.message : ValueFault → String
  | tooShort => "value to short"
  | tooLong => "value to long"
  | badCharacter c => "contains invalid character: '" ++ String.singleton c ++ "'"
  | malformed => "value malformed"
  | badFormat => "value format is invalid"

/-- What is wrong with the length of a key. -/
inductive KeySizeFault where
  | tooShort
  | tooLong
deriving DecidableEq, Repr

/-- The fewest bytes of a stored key. -/
def minKeySize : Nat := 10

/-- The most bytes of a stored key. -/
def maxKeySize : Nat := 64

def KeySizeFault.message : KeySizeFault → String
  | tooShort => "output size too short, expected at least " ++ toString minKeySize ++ " bytes"
  | tooLong => "output size too long, expected at most " ++ toString maxKeySize ++ " bytes"

def checkKeySize (size : Nat) : Except KeySizeFault Unit :=
  if size < minKeySize then .error .tooShort
  else if maxKeySize < size then .error .tooLong
  else .ok ()

/-- What is wrong with a PHC string. -/
inductive PhcFault where
  | missingField
  | trailingData
  | badName
  | badValue (fault : ValueFault)
  | tooManyParameters
  | badSalt (fault : ValueFault)
  | badKeySize (fault : KeySizeFault)
  /-- The text is not Base64. -/
  | badEncoding
  /-- The text stands for more bytes than the field may hold. -/
  | badEncodedLength
deriving DecidableEq, Repr

def PhcFault.message : PhcFault → String
  | missingField => "password hash string missing field"
  | trailingData => "password hash string contains trailing characters"
  | badName => "invalid parameter name"
  | badValue fault => "invalid parameter value: " ++ fault.message
  | tooManyParameters => "maximum number of parameters reached"
  | badSalt fault => "salt invalid: " ++ fault.message
  | badKeySize fault => fault.message
  | badEncoding => "invalid Base64 encoding"
  | badEncodedLength => "invalid Base64 length"

/-- A PHC string by its fields. -/
structure Phc where
  algorithm : List Char
  version : Option Nat
  /-- Names and values in the order in which they are written. -/
  parameters : List (List Char × List Char)
  /-- The salt as it is written. -/
  salt : Option (List Char)
  key : Option (List UInt8)
deriving DecidableEq, Repr

namespace Phc

/-! ## Characters -/

/-- The characters of names. -/
def isNameChar (c : Char) : Bool :=
  ('a' ≤ c && c ≤ 'z') || ('0' ≤ c && c ≤ '9') || c == '-'

/-- The characters of values. -/
def isValueChar (c : Char) : Bool :=
  ('a' ≤ c && c ≤ 'z') || ('A' ≤ c && c ≤ 'Z') || ('0' ≤ c && c ≤ '9') ||
    c == '/' || c == '+' || c == '.' || c == '-'

/-! ## Base64 of bounded size -/

/-- The bytes of a text of at most `bound` bytes. The size is checked before the symbols. -/
def decodeBytes (bound : Nat) (text : List Char) : Except PhcFault (List UInt8) :=
  if bound < 3 * Text.byteLength text / 4 then .error .badEncodedLength
  else
    match Base64.decode Base64.standard (Utf8.encode (String.ofList text)) with
    | .ok bytes => .ok bytes
    | .error _ => .error .badEncoding

/-- The text of a byte string. -/
def encodeBytes (bytes : List UInt8) : List Char :=
  (Base64.encode Base64.standard bytes).map fun b => Char.ofNat b.toNat

/-! ## Reading -/

/-- A name: 1 to 32 characters. -/
def readName (field : List Char) : Except PhcFault (List Char) :=
  if field.isEmpty ∨ 32 < Text.byteLength field ∨ ¬ field.all isNameChar then .error .badName
  else .ok field

/-- Checks the characters of a value; the first bad one counts. -/
def checkCharacters (field : List Char) : Except ValueFault Unit :=
  match field.find? fun c => !isValueChar c with
  | some c => .error (.badCharacter c)
  | none => .ok ()

/-- A value: at most 64 bytes. -/
def readValue (field : List Char) : Except PhcFault (List Char) :=
  if 64 < Text.byteLength field then .error (.badValue .tooLong)
  else
    match checkCharacters field with
    | .ok () => .ok field
    | .error fault => .error (.badValue fault)

/-- A number of 32 bits without leading zeros. -/
def readDecimal (value : List Char) : Except PhcFault Nat :=
  match value with
  | [] => .error (.badValue .malformed)
  | first :: rest =>
    match value.find? fun c => (Integer.digit? c).isNone with
    | some c => .error (.badValue (.badCharacter c))
    | none =>
      if first = '0' ∧ ¬ rest.isEmpty then .error (.badValue .badFormat)
      else
        match Integer.parseNat Integer.maxUnsigned32 value with
        | .ok n => .ok n
        | .error _ => .error (.badValue .badFormat)

/-- One parameter: a name and a value around an equals sign. -/
def readParameter (pair : List Char) : Except PhcFault (List Char × List Char) :=
  match Text.split '=' pair with
  | name :: rest => do
    let name ← readName name
    match rest with
    | [] => .error (.badValue .malformed)
    | value :: more =>
      let value ← readValue value
      if more.isEmpty then pure (name, value) else .error (.badValue .malformed)
  | [] => .error .badName

/-- The parameters, separated by commas, in at most 127 bytes. -/
def readParameters (field : List Char) : Except PhcFault (List (List Char × List Char)) :=
  if 127 < Text.byteLength field then .error .tooManyParameters
  else (Text.split ',' field).mapM readParameter

/-- A salt: 4 to 64 bytes. -/
def readSalt (field : List Char) : Except PhcFault (List Char) :=
  let length := Text.byteLength field
  if length < 4 then .error (.badSalt .tooShort)
  else if 64 < length then .error (.badSalt .tooLong)
  else
    match checkCharacters field with
    | .ok () => .ok field
    | .error fault => .error (.badSalt fault)

/-- A key: 10 to 64 bytes. -/
def readKey (field : List Char) : Except PhcFault (List UInt8) := do
  let bytes ← decodeBytes maxKeySize field
  match checkKeySize bytes.length with
  | .ok () => pure bytes
  | .error fault => .error (.badKeySize fault)

/-- The fields after the parameters: a salt and then a key, both optional. -/
def readSecrets (fields : List (List Char)) :
    Except PhcFault (Option (List Char) × Option (List UInt8)) :=
  match fields with
  | [] => pure (none, none)
  | [salt] => do pure (some (← readSalt salt), none)
  | salt :: key :: more => do
    let salt ← readSalt salt
    let key ← readKey key
    if more.isEmpty then pure (some salt, some key) else .error .trailingData

/-- The fields after the version: parameters if the first one has an equals sign. -/
def readTail (algorithm : List Char) (version : Option Nat) (fields : List (List Char)) :
    Except PhcFault Phc := do
  let (parameters, fields) ← match fields with
    | field :: rest =>
      if field.contains '=' then do pure ((← readParameters field), rest)
      else pure ([], fields)
    | [] => pure ([], [])
  let (salt, key) ← readSecrets fields
  pure ⟨algorithm, version, parameters, salt, key⟩

/-- The fields after the algorithm: a version if the first one is written as one and has no
comma. -/
def readFields (algorithm : List Char) (fields : List (List Char)) : Except PhcFault Phc :=
  match fields with
  | ('v' :: '=' :: value) :: rest =>
    if value.contains ',' then readTail algorithm none fields
    else do
      let version ← readDecimal (← readValue value)
      readTail algorithm (some version) rest
  | _ => readTail algorithm none fields

def parse (text : List Char) : Except PhcFault Phc :=
  match Text.split '$' text with
  | [] :: algorithm :: fields => do
    readFields (← readName algorithm) fields
  | _ => .error .missingField

/-! ## Writing -/

/-- A parameter with its value. -/
def renderParameter (parameter : List Char × List Char) : List Char :=
  parameter.1 ++ '=' :: parameter.2

def joined (separator : Char) : List (List Char) → List Char
  | [] => []
  | [piece] => piece
  | piece :: rest => piece ++ separator :: joined separator rest

def render (phc : Phc) : List Char :=
  let version := match phc.version with
    | some v => ['$', 'v', '='] ++ Nat.toDigits 10 v
    | none => []
  let parameters := match phc.parameters with
    | [] => []
    | parameters => '$' :: joined ',' (parameters.map renderParameter)
  let salt := match phc.salt with
    | some salt => '$' :: salt
    | none => []
  let key := match phc.key with
    | some key => '$' :: encodeBytes key
    | none => []
  '$' :: phc.algorithm ++ version ++ parameters ++ salt ++ key

end Phc

end Accounts.Password
