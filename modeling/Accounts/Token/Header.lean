import Accounts.Json.Value

/-!
# The header of a token

The first segment of a token names the signature method. Other fields of RFC 7515 are read for their
form only, and unknown ones are skipped.
-/

namespace Accounts.Token

/-- A signature method that a header may name. -/
inductive Algorithm where
  | hs256
  | hs384
  | hs512
  | es256
  | es384
  | rs256
  | rs384
  | rs512
  | ps256
  | ps384
  | ps512
  | edDsa
deriving DecidableEq, Repr

namespace Algorithm

/-- The signature methods by name. -/
def byName : List (String × Algorithm) :=
  [("HS256", hs256), ("HS384", hs384), ("HS512", hs512), ("ES256", es256), ("ES384", es384),
    ("RS256", rs256), ("RS384", rs384), ("RS512", rs512), ("PS256", ps256), ("PS384", ps384),
    ("PS512", ps512), ("EdDSA", edDsa)]

end Algorithm

/-! ## Keys inside a header -/

namespace HeaderKey

/-- The methods that a key inside a header may be meant for. -/
def methods : List String :=
  Algorithm.byName.map (·.1) ++ ["RSA1_5", "RSA-OAEP", "RSA-OAEP-256"]

/-- The curves of elliptic keys. -/
def curves : List String := ["P-256", "P-384", "P-521", "Ed25519"]

def checkText : Json → Except Json.FormFault Unit
  | .null => .ok ()
  | v => (v.asText "a string").map fun _ => ()

def checkTexts : Json → Except Json.FormFault Unit
  | .null => .ok ()
  | .list elements => elements.forM fun v => (v.asText "a string").map fun _ => ()
  | v => .error (.wrongKind v.found "a sequence")

def checkMethod : Json → Except Json.FormFault Unit
  | .null => .ok ()
  | v => (v.asVariant (methods.map fun m => (m, ()))).map fun _ => ()

/-- The check of a field that every kind of key may have. -/
def common? : String → Option (Json → Except Json.FormFault Unit)
  | "use" | "kid" | "x5u" | "x5t" | "x5t#S256" => some checkText
  | "key_ops" | "x5c" => some checkTexts
  | "alg" => some checkMethod
  | _ => none

/-- Checks the common fields in order. A field given twice is a fault. -/
def checkCommon (members : List (String × Json)) : List String → Except Json.FormFault Unit
  | seen =>
    match members with
    | [] => .ok ()
    | (key, v) :: rest =>
      match common? key with
      | none => checkCommon rest seen
      | some check =>
        if seen.contains key then .error (.duplicateField key)
        else do
          check v
          checkCommon rest (key :: seen)

def text? (members : List (String × Json)) (key : String) : Option String :=
  match members.lookup key with
  | some (.text s) => some s
  | _ => none

/-- Whether the fields make up a key of some kind: elliptic, RSA, symmetric or a key pair. -/
def hasKind (members : List (String × Json)) : Bool :=
  let has := fun key => (text? members key).isSome
  let curve := (text? members "crv").any curves.contains
  match text? members "kty" with
  | some "EC" => curve && has "x" && has "y"
  | some "RSA" => has "n" && has "e"
  | some "oct" => has "k"
  | some "OKP" => curve && has "x"
  | _ => false

/-- The check of all fields. -/
def check (members : List (String × Json)) : Except Json.FormFault Unit := do
  checkCommon members []
  if hasKind members then pure () else .error (.noAlternative "AlgorithmParameters")

def reader : Json.Reader Unit :=
  Json.Reader.object "struct Jwk"
    (fun key members => do
      Json.Reader.colon
      let v ← Json.Reader.value 126
      pure (members ++ [(key, v)]))
    [] check

end HeaderKey

/-! ## The header -/

/-- What a header says. -/
structure Header where
  algorithm : Algorithm
deriving DecidableEq, Repr

namespace Header

/-- The header of the tokens made here, in JSON. -/
def written : List UInt8 :=
  Utf8.encode (Json.object [("typ", .text "JWT"), ("alg", .text "HS256")]).compact

/-- The fields read so far. -/
structure Draft where
  algorithm : Option Algorithm := none
  /-- The known fields that have been given, apart from the method. -/
  given : List String := []

def recordName : String := "struct Header"

section Reading

open Json.Reader

/-- Reads a text or `null`. -/
def textReader : Json.Reader Unit := do
  let _ ← optional (string "a string")

def textsReader : Json.Reader Unit := do
  if (← valueStart) == byte '[' then
    located (closedBy
      (do
        advance
        fun input =>
          elements (fun _ _ => do let _ ← string "a string") (input.length + 1) 0 () input)
      listEnd)
  else wrongKind "a sequence"

/-- Reads the value of a known field other than the method. -/
def plain? : String → Option (Json.Reader Unit)
  | "typ" | "cty" | "jku" | "kid" | "x5u" | "x5t" | "x5t#S256" => some textReader
  | "x5c" => some do let _ ← optional textsReader
  | "jwk" => some do let _ ← optional HeaderKey.reader
  | _ => none

/-- Reads the value of a field into a draft. -/
def member (key : String) (d : Draft) : Json.Reader Draft := do
  if key = "alg" then
    pure { d with algorithm := ← field key d.algorithm (variant Algorithm.byName) }
  else
    match plain? key with
    | some r =>
      let _ ← field key (if d.given.contains key then some () else none) r
      pure { d with given := key :: d.given }
    | none =>
      ignoredField key
      pure d

/-- The header of a complete draft. -/
def Draft.finish (d : Draft) : Except Json.FormFault Header :=
  match d.algorithm with
  | some algorithm => .ok ⟨algorithm⟩
  | none => .error (.missingField "alg")

/-- Reads the values of the fields in order. -/
def positional : Json.Reader Header := do
  let wanted := recordName ++ " with 10 elements"
  elementAt 0 wanted textReader
  let algorithm ← elementAt 1 wanted (variant Algorithm.byName)
  elementAt 2 wanted textReader
  elementAt 3 wanted textReader
  let _ ← elementAt 4 wanted (optional HeaderKey.reader)
  elementAt 5 wanted textReader
  elementAt 6 wanted textReader
  let _ ← elementAt 7 wanted (optional textsReader)
  elementAt 8 wanted textReader
  elementAt 9 wanted textReader
  pure ⟨algorithm⟩

def reader : Json.Reader Header := record recordName member {} Draft.finish positional

end Reading

/-- The header of a JSON text. -/
def decode (text : List UInt8) : Except Json.Fault Header := Json.Reader.run reader text

end Header

end Accounts.Token
