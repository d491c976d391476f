import Accounts.Account.Id
import Accounts.Authenticator
import Accounts.Http.Cookie
import Accounts.Http.Envelope

/-!
# Sessions

A session is what an access token says about the one who presents it. The token comes in the
`Authorization` header; only without that header is the cookie looked at.
-/

namespace Accounts.Http

/-- A verified session. -/
structure Session where
  accountId : AccountId
  /-- The end of the session, if it lies within the calendar. -/
  expiresAt : Option Time.Instant
deriving DecidableEq, Repr

/-- The token in the value of an `Authorization` header. -/
def bearerToken (value : List UInt8) : Except Refusal String :=
  match visibleText? value with
  | none => .error (.unauthorized "Invalid Authorization header")
  | some text =>
    match (Text.dropPrefix? "Bearer ".toList text).map Text.trim with
    | some (c :: cs) => .ok (String.ofList (c :: cs))
    | _ =>
      .error (.unauthorized "Invalid Authorization header format. Expected: Bearer <token>")

/-- The access token that a request presents. -/
def Request.accessToken (r : Request) : Except Refusal String :=
  match r.header? "authorization" with
  | some value => bearerToken value
  | none =>
    match (r.cookie? accessCookie).filter (· != "") with
    | some token => .ok token
    | none => .error (.unauthorized "Missing access token")

namespace Session

/-- The session of a request at a time in seconds. -/
def ofRequest (a : Authenticator) (now : Nat) (r : Request) : Except Refusal Session := do
  let token ← r.accessToken
  match a.validate now token .access with
  | .error _ => .error (.unauthorized "Invalid or expired token")
  | .ok claims =>
    match claims.accountId with
    | .error _ => .error (.unauthorized "Invalid token format")
    | .ok accountId => .ok ⟨accountId, Token.Claims.instantOf claims.expiresAt⟩

/-- What is told about a session. -/
def toJson (s : Session) : Json :=
  .object [("accountId", .text s.accountId.text),
    ("expiresAt", (s.expiresAt.map fun t => .text (t.rfc3339 "Z")).getD .null)]

end Session

end Accounts.Http
