import Accounts.Json.Record
import Accounts.Time.Instant
import Accounts.Token.Metadata
import Accounts.Token.Purpose

/-!
# Claims

What a token says: whom it is about, who issued it, for what, and from when until when. Times are
whole seconds since 1970-01-01, in 64 bits. Claims have a JSON form, in which metadata appears only
if there is any.
-/

namespace Accounts.Token

/-- The claims of a token. -/
structure Claims where
  /-- Whom the token is about. -/
  subject : String
  issuer : String
  /-- Tells the tokens of one issuer apart. -/
  tokenId : String
  issuedAt : Int64
  /-- The first second in which the token may be used. -/
  notBefore : Int64
  /-- The last second in which the token may be used. -/
  expiresAt : Int64
  purpose : Purpose
  metadata : Metadata
deriving DecidableEq

namespace Claims

/-- Claims that hold from one instant to another. Issuer and identifier are left empty. -/
def new (subject : String) (purpose : Purpose) (issued expires : Time.Instant) : Claims where
  subject := subject
  issuer := ""
  tokenId := ""
  issuedAt := Int64.ofInt issued.timestamp
  notBefore := Int64.ofInt issued.timestamp
  expiresAt := Int64.ofInt expires.timestamp
  purpose := purpose
  metadata := .empty

def withIssuer (c : Claims) (issuer : String) : Claims := { c with issuer := issuer }

def withTokenId (c : Claims) (tokenId : String) : Claims := { c with tokenId := tokenId }

def withExpiresAt (c : Claims) (expires : Time.Instant) : Claims :=
  { c with expiresAt := Int64.ofInt expires.timestamp }

/-- The claims with an entry of metadata. -/
def withMetadata (c : Claims) (key value : String) : Claims :=
  { c with metadata := c.metadata.insert key value }

/-- Whether the end of the claims has passed. -/
def isExpired (c : Claims) (now : Int64) : Bool := c.expiresAt < now

/-- Whether the claims hold at a time, both ends included. -/
def isValidAt (c : Claims) (now : Int64) : Bool := c.notBefore ≤ now && !c.isExpired now

/-- A second as an instant, if it lies within the calendar. -/
def instantOf (seconds : Int64) : Option Time.Instant :=
  if Time.InCalendar seconds.toInt then some (.ofSeconds seconds.toInt) else none

/-! ## JSON -/

/-- The claims as JSON. -/
def toJson (c : Claims) : Json :=
  .object ([("sub", .text c.subject), ("iss", .text c.issuer), ("jti", .text c.tokenId),
    ("iat", .int c.issuedAt.toInt), ("nbf", .int c.notBefore.toInt),
    ("exp", .int c.expiresAt.toInt), ("purpose", .text c.purpose.name)] ++
    if c.metadata.isEmpty then [] else [("metadata", c.metadata.toJson)])

/-- The bytes of the JSON form. -/
def encode (c : Claims) : List UInt8 := Utf8.encode c.toJson.compact

/-- The fields of claims that have been read so far. -/
structure Draft where
  subject : Option String := none
  issuer : Option String := none
  tokenId : Option String := none
  issuedAt : Option Int := none
  notBefore : Option Int := none
  expiresAt : Option Int := none
  purpose : Option Purpose := none
  metadata : Option Metadata := none

/-- A field that has to be there. -/
def require {α : Type} (name : String) : Option α → Except Json.FormFault α
  | some a => .ok a
  | none => .error (.missingField name)

/-- The claims of a complete draft. -/
def Draft.finish (d : Draft) : Except Json.FormFault Claims := do
  let subject ← require "sub" d.subject
  let issuer ← require "iss" d.issuer
  let tokenId ← require "jti" d.tokenId
  let issuedAt ← require "iat" d.issuedAt
  let notBefore ← require "nbf" d.notBefore
  let expiresAt ← require "exp" d.expiresAt
  let purpose ← require "purpose" d.purpose
  pure {
    subject, issuer, tokenId, purpose
    issuedAt := Int64.ofInt issuedAt
    notBefore := Int64.ofInt notBefore
    expiresAt := Int64.ofInt expiresAt
    metadata := d.metadata.getD .empty }

def recordName : String := "struct Claims"

section Reading

open Json.Reader

def textReader : Json.Reader String := string "a string"

def timeReader : Json.Reader Int := integer "i64" fun n => decide (Integer.IsSigned64 n)

/-- Reads the value of a field into a draft. -/
def member (key : String) (d : Draft) : Json.Reader Draft := do
  match key with
  | "sub" => pure { d with subject := ← field key d.subject textReader }
  | "iss" => pure { d with issuer := ← field key d.issuer textReader }
  | "jti" => pure { d with tokenId := ← field key d.tokenId textReader }
  | "iat" => pure { d with issuedAt := ← field key d.issuedAt timeReader }
  | "nbf" => pure { d with notBefore := ← field key d.notBefore timeReader }
  | "exp" => pure { d with expiresAt := ← field key d.expiresAt timeReader }
  | "purpose" => pure { d with purpose := ← field key d.purpose Purpose.reader }
  | "metadata" => pure { d with metadata := ← field key d.metadata Metadata.reader }
  | _ => do
    ignoredField key
    pure d

/-- Reads the values of the fields in order. -/
def positional : Json.Reader Claims := do
  let wanted := recordName ++ " with 8 elements"
  let subject ← elementAt 0 wanted textReader
  let issuer ← elementAt 1 wanted textReader
  let tokenId ← elementAt 2 wanted textReader
  let issuedAt ← elementAt 3 wanted timeReader
  let notBefore ← elementAt 4 wanted timeReader
  let expiresAt ← elementAt 5 wanted timeReader
  let purpose ← elementAt 6 wanted Purpose.reader
  let metadata ← if ← nextElement false then inField "[7]" Metadata.reader else pure .empty
  pure {
    subject, issuer, tokenId, purpose, metadata
    issuedAt := Int64.ofInt issuedAt
    notBefore := Int64.ofInt notBefore
    expiresAt := Int64.ofInt expiresAt }

def reader : Json.Reader Claims := record recordName member {} Draft.finish positional

end Reading

/-- The claims of a JSON text. -/
def decode (text : List UInt8) : Except Json.Fault Claims := Json.Reader.run reader text

/-! ## Claims as JSON values -/

def asTime (v : Json) : Except Json.FormFault Int64 := v.asSigned.map Int64.ofInt

/-- The form of claims. The metadata may be missing. -/
def form : Record.Form Json Json.FormFault Claims :=
  (Record.Form.start Claims.mk)
    |>.field "sub" Json.source.text
    |>.field "iss" Json.source.text
    |>.field "jti" Json.source.text
    |>.field "iat" asTime
    |>.field "nbf" asTime
    |>.field "exp" asTime
    |>.field "purpose" Purpose.ofJson
    |>.fieldOr "metadata" Metadata.ofJson .empty

/-- The claims that a JSON value stands for. -/
def ofJson (v : Json) : Except Json.FormFault Claims := form.read Json.source recordName v

end Claims

end Accounts.Token
