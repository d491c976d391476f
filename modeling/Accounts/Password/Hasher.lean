import Accounts.Hash.Argon2id
import Accounts.Number.Arithmetic
import Accounts.Password.Cost
import Accounts.Password.Phc

/-!
# Hashing and verifying passwords

A hasher turns a password and a salt into a PHC string. Verifying reads the costs from the string,
so a change of the configured costs leaves older hashes valid.
-/

namespace Accounts.Password

/-- What can go wrong with a password. -/
inductive Fault where
  /-- The key could not be derived. -/
  | hashingFailed (detail : String)
  /-- The stored hash is not one that this service makes. -/
  | malformedHash (detail : String)
  /-- The stored hash is of another version of the key derivation. -/
  | incompatibleVersion (version : Nat)
  /-- The configured costs are not acceptable. -/
  | invalidCost (detail : String)
deriving DecidableEq, Repr

def Fault.message : Fault → String
  | hashingFailed detail => "Password hashing failed: " ++ detail
  | malformedHash detail => "Malformed password hash: " ++ detail
  | incompatibleVersion version => "Incompatible argon2 version: " ++ toString version
  | invalidCost detail => "Invalid KDF parameters: " ++ detail

def version : Nat := 0x13

def algorithm : List Char := "argon2id".toList

/-- Sixteen random bytes. -/
structure Salt where
  bytes : List UInt8
  length_bytes : bytes.length = 16

/-- A hasher: costs that have been checked. -/
structure Hasher where
  cost : Cost
deriving DecidableEq, Repr

/-- What a stored hash says about the derivation. Parameters that it leaves out have the values
below. -/
structure Stored where
  memory : Nat := 19456
  iterations : Nat := 2
  parallelism : Nat := 1
  data : List UInt8 := []
deriving DecidableEq, Repr

namespace Stored

/-- Takes one parameter of a stored hash into account; a later one of the same name replaces it. The
identifier of a key does not matter, but has to be Base64 of at most eight bytes. -/
def take (s : Stored) (parameter : List Char × List Char) : Except PhcFault Stored :=
  match parameter with
  | (['m'], value) => do pure { s with memory := ← Phc.readDecimal value }
  | (['t'], value) => do pure { s with iterations := ← Phc.readDecimal value }
  | (['p'], value) => do pure { s with parallelism := ← Phc.readDecimal value }
  | (name, value) =>
    if name = "keyid".toList then do
      let _ ← Phc.decodeBytes 8 value
      pure s
    else if name = "data".toList then do
      pure { s with data := ← Phc.decodeBytes 32 value }
    else .error .badName

/-- The costs of a stored hash, checked against the ranges of the key derivation. -/
def ofPhc (phc : Phc) : Except PhcFault Stored := do
  let s ← phc.parameters.foldlM take {}
  match Cost.checkRange s.memory s.iterations s.parallelism (phc.key.map List.length) with
  | .ok () => pure s
  | .error fault =>
    .error (.badValue (if fault.isAbove then ValueFault.tooLong else ValueFault.tooShort))

end Stored

/-- What the key derivation refuses. -/
inductive InputFault where
  | passwordTooLong
  | saltTooShort
deriving DecidableEq, Repr

namespace InputFault

def message : InputFault → String
  | passwordTooLong => "password is too long"
  | saltTooShort => "salt is too short"

/-- The wording where a new hash was to be made. -/
def hashMessage : InputFault → String
  | passwordTooLong => "invalid password"
  | saltTooShort => (PhcFault.badSalt .tooShort).message

end InputFault

/-- The most bytes of a password. -/
def maxPasswordSize : Nat := 4294967295

/-- The fewest bytes of a salt. -/
def minSaltSize : Nat := 8

/-- Checks what a key is to be derived from. -/
def checkInput (password : String) (salt : List UInt8) : Except InputFault Unit :=
  if maxPasswordSize < (Utf8.encode password).length then .error .passwordTooLong
  else if salt.length < minSaltSize then .error .saltTooShort
  else .ok ()

/-- What the key derivation is set to. -/
def Stored.parameters (s : Stored) (keyLength : Nat) : Argon2.Parameters :=
  ⟨s.memory, s.iterations, s.parallelism, keyLength, s.data⟩

/-- The key of a password. -/
def derive (password : String) (salt : List UInt8) (s : Stored) (keyLength : Nat) :
    Except InputFault (List UInt8) := do
  checkInput password salt
  pure (Argon2.derive (s.parameters keyLength) (Utf8.encode password) salt)

namespace Hasher

/-- A hasher with the default costs. -/
def standard : Hasher := ⟨.standard⟩

/-- A hasher with given costs. They have to lie in the ranges of the key derivation and below the
ceilings that a stored hash has to keep. -/
def ofCost (cost : Cost) : Except Fault Hasher :=
  match Cost.checkRange cost.memory cost.iterations cost.parallelism (some cost.keyLength) with
  | .error fault => .error (.invalidCost fault.message)
  | .ok () =>
    match Cost.checkCeiling cost.memory cost.iterations cost.parallelism with
    | .error fault => .error (.invalidCost fault.message)
    | .ok () => .ok ⟨cost⟩

/-- The parameters that a hash of this hasher names. -/
def parameters (h : Hasher) : List (List Char × List Char) :=
  [(['m'], Nat.toDigits 10 h.cost.memory), (['t'], Nat.toDigits 10 h.cost.iterations),
    (['p'], Nat.toDigits 10 h.cost.parallelism)]

/-- What the hashes of this hasher say about the derivation. -/
def stored (h : Hasher) : Stored := ⟨h.cost.memory, h.cost.iterations, h.cost.parallelism, []⟩

/-- The stored form of a password. The length of the key is checked before the password. -/
def hash (h : Hasher) (salt : Salt) (password : String) : Except Fault String :=
  match checkKeySize h.cost.keyLength with
  | .error fault => .error (.hashingFailed fault.message)
  | .ok () =>
    match derive password salt.bytes h.stored h.cost.keyLength with
    | .error fault => .error (.hashingFailed fault.hashMessage)
    | .ok key =>
      .ok (String.ofList (Phc.render
        ⟨algorithm, some version, h.parameters, some (Phc.encodeBytes salt.bytes), some key⟩))

end Hasher

/-- What a verification has to compute: everything about a stored hash but the password. -/
structure Challenge where
  stored : Stored
  salt : List UInt8
  key : List UInt8
deriving DecidableEq, Repr

/-- Reads a stored hash by its fields. The checks come in this order: form, algorithm, version. -/
def Challenge.fields (text : String) : Except Fault Phc := do
  let phc ← (Phc.parse text.toList).mapError fun fault => .malformedHash fault.message
  if phc.algorithm ≠ algorithm then
    .error (.malformedHash ("unsupported algorithm: " ++ String.ofList phc.algorithm))
  else
    match phc.version with
    | none => .error (.malformedHash "missing version")
    | some v => if v ≠ version then .error (.incompatibleVersion v) else pure phc

/-- Reads what a stored hash asks for. The checks that follow those of the fields come in this
order: costs, ceilings, presence of salt and key, encoding of the salt. -/
def Challenge.ofText (text : String) : Except Fault Challenge := do
  let phc ← Challenge.fields text
  let stored ← (Stored.ofPhc phc).mapError fun fault => .malformedHash fault.message
  match Cost.checkCeiling stored.memory stored.iterations stored.parallelism with
  | .error fault => .error (.malformedHash fault.message)
  | .ok () =>
    match phc.salt, phc.key with
    | none, _ => .error (.malformedHash "missing salt")
    | some _, none => .error (.malformedHash "missing key")
    | some salt, some key =>
      let salt ← (Phc.decodeBytes 64 salt).mapError fun fault =>
        .malformedHash ("invalid salt: " ++ fault.message)
      pure ⟨stored, salt, key⟩

/-- Whether a password fits a stored hash. -/
def verify (password stored : String) : Except Fault Bool := do
  let challenge ← Challenge.ofText stored
  let key ← (derive password challenge.salt challenge.stored challenge.key.length).mapError
    fun fault => .hashingFailed fault.message
  pure (key == challenge.key)

/-- Whether a password fits a stored hash, as a hasher tells it: by the costs that the hash states,
never by its own. -/
def Hasher.verify (_ : Hasher) (password stored : String) : Except Fault Bool :=
  Password.verify password stored

/-- Whether an overflow occurs where the costs of a stored hash are checked. -/
def overflows (stored : String) : Bool :=
  match Challenge.fields stored with
  | .error _ => false
  | .ok phc =>
    match phc.parameters.foldlM Stored.take {} with
    | .error _ => false
    | .ok s => Cost.overflows s.memory s.parallelism

/-- Verification as a task, which an overflow may break off. -/
def verifyUnder (arithmetic : Arithmetic) (password stored : String) :
    Except Breakdown (Except Fault Bool) := do
  arithmetic.pass (overflows stored)
  pure (verify password stored)

end Accounts.Password
