import Accounts.Http.Message
import Accounts.Text.Split

/-!
# Media types

A media type is a type, a subtype and parameters. The subtype ends at its last plus sign, which a
suffix follows.
-/

namespace Accounts.Http

/-- The names of a media type, in lower case. -/
structure MediaType where
  type : List Char
  subtype : List Char
  suffix : Option (List Char)
deriving DecidableEq, Repr

namespace MediaType

/-- What follows a quoted value: nothing, or the next parameter. -/
def afterQuoted : List Char → Option (List Char)
  | [] => some []
  | ';' :: rest => some rest
  | ' ' :: rest => afterQuoted rest
  | _ => none

/-- The characters after a quoted value, given those after its opening quote. The first character
always belongs to the value. -/
def dropQuoted : List Char → Option (List Char)
  | [] => none
  | c :: rest =>
    if c = '\t' then none
    else
      let after := rest.dropWhile fun d => d != '"' && d != '\t'
      match after with
      | '"' :: rest => some rest
      | _ => none

/-- The characters after the value of a parameter and the semicolon that ends it. -/
def dropValue : List Char → Option (List Char)
  | '"' :: rest => (dropQuoted rest).bind afterQuoted
  | cs =>
    match cs.dropWhile isTokenChar with
    | [] => some []
    | ';' :: rest => if isTokenChar (cs.headD ';') then some rest else none
    | _ => none

/-- Whether the characters after a semicolon are parameters. The first argument bounds their
number. -/
def areParameters : Nat → List Char → Bool
  | _, [] => true
  | 0, _ => false
  | fuel + 1, ' ' :: rest => areParameters fuel rest
  | fuel + 1, cs =>
    match cs.takeWhile isTokenChar, cs.dropWhile isTokenChar with
    | _ :: _, '=' :: rest =>
      match dropValue rest with
      | some rest => areParameters fuel rest
      | none => false
    | _, _ => false

/-- The media type of a text. -/
def ofText? (text : List Char) : Option MediaType :=
  match Text.splitFirst '/' text with
  | none => none
  | some (type, rest) =>
    let subtype := rest.takeWhile isTokenChar
    let after := rest.dropWhile isTokenChar
    let parameters := after.drop 1
    let ends := after.isEmpty ||
      (after.head? == some ';' && areParameters parameters.length parameters)
    if type.isEmpty || !type.all isTokenChar || subtype.isEmpty && !after.isEmpty || !ends then none
    else
      let lower := subtype.map Char.toLower
      match lower with
      | [] => some ⟨type.map Char.toLower, [], none⟩
      | first :: others =>
        match Text.splitLast '+' others with
        | some (before, suffix) => some ⟨type.map Char.toLower, first :: before, some suffix⟩
        | none => some ⟨type.map Char.toLower, lower, none⟩

/-- Whether a media type says that a body is JSON. -/
def isJson (m : MediaType) : Bool :=
  m.type == "application".toList &&
    (m.subtype == "json".toList || m.suffix == some "json".toList)

end MediaType

namespace Request

/-- Whether the body of a request is said to be JSON. -/
def announcesJson (r : Request) : Bool :=
  match (r.header? "content-type").bind visibleText? with
  | some text => ((MediaType.ofText? text).map MediaType.isJson).getD false
  | none => false

end Request

end Accounts.Http
