import Accounts.Hash.Sha256
import Accounts.Text.Split
import Accounts.Token.Claims
import Accounts.Token.Header
import Accounts.Token.Key
import Accounts.Token.TokenId
import Accounts.Token.Window

/-!
# Signing and verifying tokens

A token is a compact JSON web signature: header, payload and signature in Base64, with dots between
them. The signature is the HMAC of the first two segments under the key of the expected purpose;
nothing in the token chooses the key.
-/

namespace Accounts.Token

/-- The Base64 text of bytes. -/
def segment (bytes : List UInt8) : List Char :=
  (Base64.encode Base64.urlSafe bytes).map fun b => Char.ofNat b.toNat

/-- The bytes of a segment. -/
def segmentBytes (text : List Char) : Except Fault (List UInt8) :=
  match Base64.decode Base64.urlSafe (Utf8.encode (String.ofList text)) with
  | .ok bytes => .ok bytes
  | .error fault => .error (.malformed (.base64 fault))

/-- The signature of a message as a segment. -/
def signature (key : Key) (message : List Char) : List Char :=
  segment (Sha256.hmac key.secret (Utf8.encode (String.ofList message)))

/-- The message that a token with these claims signs. -/
def message (claims : Claims) : List Char :=
  segment Header.written ++ '.' :: segment claims.encode

/-- The token with these claims. -/
def sign (claims : Claims) (key : Key) : String :=
  String.ofList (message claims ++ '.' :: signature key (message claims))

/-- A fault in the JSON of a segment. -/
def jsonFault (text : List UInt8) (fault : Json.Fault) : Fault :=
  .malformed (.json (fault.message text))

/-- The three segments of a token. All dots but the last two belong to the header. -/
def segments (token : List Char) : Except Fault (List Char × List Char × List Char) :=
  match Text.splitLast '.' token with
  | none => .error (.malformed .segments)
  | some (message, signature) =>
    match Text.splitLast '.' message with
    | none => .error (.malformed .segments)
    | some (header, payload) => .ok (header, payload, signature)

/-- The claims of a token signed with `key`, at a time in seconds. The checks come in this order:
segments, header, method, signature, claims, validity. -/
def parse (key : Key) (now : Nat) (token : String) : Except Fault Claims := do
  let (header, payload, signed) ← segments token.toList
  let headerBytes ← segmentBytes header
  let h ← (Header.decode headerBytes).mapError (jsonFault headerBytes)
  if h.algorithm ≠ .hs256 then .error (.malformed .algorithm)
  else if signed ≠ signature key (header ++ '.' :: payload) then .error .badSignature
  else
    let payloadBytes ← segmentBytes payload
    let claims ← (Claims.decode payloadBytes).mapError (jsonFault payloadBytes)
    let window ← (Window.decode payloadBytes).mapError (jsonFault payloadBytes)
    window.check now
    pure claims

/-- The readings of the clock and the random identifier that go into one new token. -/
structure Stamp where
  /-- The reading to which the lifetime is added. -/
  expiryClock : Time.Instant
  /-- The reading at which the token counts as issued. -/
  issueClock : Time.Instant
  id : TokenId

/-- Makes and verifies tokens of one issuer. -/
structure Codec where
  keys : KeyRing
  issuer : String

namespace Codec

/-- New claims that hold until an instant. -/
def newClaims (codec : Codec) (clock : Time.Instant) (id : TokenId) (subject : String)
    (purpose : Purpose) (expires : Time.Instant) : Claims :=
  ((Claims.new subject purpose clock expires).withIssuer codec.issuer).withTokenId id.text

/-- A new token that lives for `ttl`. -/
def issue (codec : Codec) (stamp : Stamp) (subject : String) (purpose : Purpose)
    (ttl : Time.Span) : Except Time.Overflow String := do
  let expires ← stamp.expiryClock.add ttl
  pure (sign (codec.newClaims stamp.issueClock stamp.id subject purpose expires)
    (codec.keys.key purpose))

/-- The claims of a token that has to serve a purpose, at a time in seconds. -/
def verify (codec : Codec) (now : Nat) (token : String) (expected : Purpose) :
    Except Fault Claims := do
  let claims ← parse (codec.keys.key expected) now token
  if claims.purpose ≠ expected then .error (.wrongPurpose expected claims.purpose)
  else pure claims

end Codec

end Accounts.Token
