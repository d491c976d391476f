import Accounts.Json.Value
import Accounts.Text.Percent

/-!
# Looking into JSON values

What a value holds under a key or as a scalar, with a default for its absence; and the form of a
value in which the members of its objects are sorted.
-/

namespace Accounts.Json

/-- A member of an object; a missing one is `null`. -/
def member (v : Json) (key : String) : Json := (v.get? key).getD .null

/-- Whether a member is missing or `null`. -/
def lacks (v : Json) (key : String) : Bool :=
  match v.member key with
  | .null => true
  | _ => false

/-- The text of a value that is one. -/
def text? : Json → Option String
  | .text s => some s
  | _ => none

/-- The integer of a value that is one. -/
def integer? : Json → Option Int
  | .number (.natural n) => some n
  | .number (.negative n) => some n
  | _ => none

/-- The elements of a list; anything else has none. -/
def elements : Json → List Json
  | .list elements => elements
  | _ => []

/-- The members of an object; anything else has none. -/
def members : Json → List (String × Json)
  | .object members => members
  | _ => []

/-- The bytes that pairs of hexadecimal digits stand for. -/
def hexBytes : List Char → List UInt8
  | a :: b :: rest =>
    let digit := fun (c : Char) => (Percent.hexValue? c.toUInt8).getD 0
    (digit a * 16 + digit b) :: hexBytes rest
  | _ => []

def textAt (v : Json) (key : String) (default : String := "") : String :=
  (v.member key).text?.getD default

def integerAt (v : Json) (key : String) (default : Int := 0) : Int :=
  (v.member key).integer?.getD default

def boolAt (v : Json) (key : String) (default : Bool) : Bool :=
  match v.member key with
  | .bool b => b
  | _ => default

def listAt (v : Json) (key : String) : List Json := (v.member key).elements

/-- The bytes of a value: those of a text, or those given in hexadecimal under the key `hex`. -/
def bytes (v : Json) : List UInt8 :=
  match v with
  | .text s => Utf8.encode s
  | _ => hexBytes (v.textAt "hex").toList

/-- A text or `null`. -/
def ofOption : Option String → Json
  | some s => .text s
  | none => .null

/-- Members sorted by key, the last of those with one key being kept. -/
def sortMembers (members : List (String × Json)) : List (String × Json) :=
  let put := fun (acc : List (String × Json)) (m : String × Json) =>
    m :: acc.filter (·.1 != m.1)
  (members.foldl put []).mergeSort fun x y => x.1 < y.1 || x.1 == y.1

mutual

/-- The value with the members of every object sorted by key, the last of those with one key being
kept. -/
def sorted : Json → Json
  | .object members => .object (sortMembers (sortedMembers members))
  | .list elements => .list (sortedElements elements)
  | v => v

/-- The members with their values sorted. -/
def sortedMembers : List (String × Json) → List (String × Json)
  | [] => []
  | (key, v) :: rest => (key, v.sorted) :: sortedMembers rest

/-- The elements, sorted one by one. -/
def sortedElements : List Json → List Json
  | [] => []
  | v :: rest => v.sorted :: sortedElements rest

end

end Accounts.Json
