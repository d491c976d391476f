import Accounts.Json.Record

/-!
# Costs of a password hash

What a hash costs to compute, which costs the key derivation accepts, and the ceilings this service
puts on them: a stored hash may not make a verification arbitrarily expensive.
-/

namespace Accounts.Password

/-- The cost parameters of the key derivation. -/
structure Cost where
  /-- Memory in KiB. -/
  memory : Nat
  /-- Passes over the memory. -/
  iterations : Nat
  /-- Number of lanes. -/
  parallelism : Nat
  /-- Length of the derived key in bytes. -/
  keyLength : Nat
deriving DecidableEq, Repr

/-- Costs outside the ranges of the key derivation. -/
inductive RangeFault where
  | memoryTooSmall
  | timeTooSmall
  | tooFewLanes
  | tooManyLanes
  | keyTooShort
  | keyTooLong
deriving DecidableEq, Repr

/-- Costs above the ceilings. -/
inductive CeilingFault where
  | memory (requested : Nat)
  | iterations (requested : Nat)
  | parallelism (requested : Nat)
deriving DecidableEq, Repr

namespace RangeFault

/-- The wording for costs that were configured. -/
def message : RangeFault → String
  | memoryTooSmall => "memory cost is too small"
  | timeTooSmall => "time cost is too small"
  | tooFewLanes => "not enough threads"
  | tooManyLanes => "too many threads"
  | keyTooShort => "output is too short"
  | keyTooLong => "output is too long"

/-- Whether the value is above its range, and not below. -/
def isAbove : RangeFault → Bool
  | tooManyLanes | keyTooLong => true
  | _ => false

end RangeFault

namespace Cost

/-- 64 MiB, three passes, two lanes and a key of 32 bytes. -/
def standard : Cost := ⟨64 * 1024, 3, 2, 32⟩

/-- The most memory a verification may take, in KiB. -/
def memoryCeiling : Nat := 1024 * 1024

/-- The most passes a verification may take. -/
def iterationsCeiling : Nat := 64

/-- The most lanes a verification may take. -/
def parallelismCeiling : Nat := 16

/-- The least memory for a number of lanes, as a product of 32 bits. -/
def laneMemory (parallelism : Nat) : Nat := 8 * parallelism % 4294967296

/-- Checks the ranges of the key derivation. The length of the key is checked if it is known. -/
def checkRange (memory iterations parallelism : Nat) (keyLength : Option Nat) :
    Except RangeFault Unit :=
  if memory < 8 ∨ memory < laneMemory parallelism then .error .memoryTooSmall
  else if iterations < 1 then .error .timeTooSmall
  else if parallelism < 1 then .error .tooFewLanes
  else if 16777215 < parallelism then .error .tooManyLanes
  else
    match keyLength with
    | none => .ok ()
    | some length =>
      if length < 4 then .error .keyTooShort
      else if 4294967295 < length then .error .keyTooLong
      else .ok ()

/-- Whether the check of the ranges computes a product that has no room in 32 bits. Less memory than
the least for one lane is refused before. -/
def overflows (memory parallelism : Nat) : Bool := 8 ≤ memory && 4294967296 ≤ 8 * parallelism

def checkCeiling (memory iterations parallelism : Nat) : Except CeilingFault Unit :=
  if memoryCeiling < memory then .error (.memory memory)
  else if iterationsCeiling < iterations then .error (.iterations iterations)
  else if parallelismCeiling < parallelism then .error (.parallelism parallelism)
  else .ok ()

end Cost

/-- The wording of costs above the ceilings. -/
def CeilingFault.message : CeilingFault → String
  | memory requested =>
    "memory cost " ++ toString requested ++ " KiB exceeds limit of " ++
      toString Cost.memoryCeiling ++ " KiB"
  | iterations requested =>
    "iteration count " ++ toString requested ++ " exceeds limit of " ++
      toString Cost.iterationsCeiling
  | parallelism requested =>
    "parallelism " ++ toString requested ++ " exceeds limit of " ++
      toString Cost.parallelismCeiling

namespace Cost

/-! ## Costs as JSON -/

/-- The form of costs. The length of the key may be missing. -/
def form : Record.Form Json Json.FormFault Cost :=
  (Record.Form.start Cost.mk)
    |>.field "memory_kib" (Json.source.natural 32)
    |>.field "iterations" (Json.source.natural 32)
    |>.field "parallelism" (Json.source.natural 32)
    |>.fieldOr "key_length" Json.asSize standard.keyLength

/-- The costs that a JSON value stands for. -/
def ofJson (v : Json) : Except Json.FormFault Cost := form.read Json.source "struct KdfParams" v

end Cost

end Accounts.Password
