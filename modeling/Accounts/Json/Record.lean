import Accounts.Json.Value
import Accounts.Number.Integer
import Accounts.Record

/-!
# Records in JSON values

JSON values as a source of records. Whole numbers have to be written as such and to lie in range;
nothing is converted.
-/

namespace Accounts.Json

/-- An unsigned number of so many bits. -/
def asNatural (wanted : String) (bits : Nat) (v : Json) : Except FormFault Nat :=
  (v.asInteger wanted fun n => decide (0 ≤ n ∧ n < Nat.pow 2 bits)).map Int.toNat

/-- A size in memory. -/
def asSize (v : Json) : Except FormFault Nat := v.asNatural "usize" 64

/-- A signed number of 64 bits. -/
def asSigned (v : Json) : Except FormFault Int :=
  v.asInteger "i64" fun n => decide (Integer.IsSigned64 n)

/-- JSON values as a source of records. -/
def source : Record.Source Json FormFault where
  shape := fun
    | .object members => .fields members
    | .list elements => .elements elements
    | v => .other v.found
  text := asText "a string"
  natural := fun bits => asNatural ("u" ++ toString bits) bits
  integer := asSigned
  bool := asBool "a boolean"
  malformed := id
  refusesSurplus := true

end Accounts.Json
