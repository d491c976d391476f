import Accounts.Http.Body
import Accounts.Http.Session
import Accounts.Service

/-!
# Endpoints

What can be asked of the service over HTTP: registration, login, refresh, the session of the asker,
and whether the service is alive.
-/

namespace Accounts.Http

inductive Endpoint where
  | health
  | register
  | login
  | refresh
  | session
deriving DecidableEq, Repr

namespace Endpoint

def path : Endpoint → String
  | health => "/health"
  | register => "/api/v1/register"
  | login => "/api/v1/login"
  | refresh => "/api/v1/refresh"
  | session => "/api/v1/session"

def all : List Endpoint := [health, register, login, refresh, session]

def ofPath? (path : String) : Option Endpoint := all.find? (·.path == path)

/-- The methods that an endpoint takes. -/
def methods : Endpoint → List String
  | health | session => ["GET", "HEAD"]
  | register | login | refresh => ["POST"]

/-- The methods of an endpoint as they are listed in a header. -/
def allow (e : Endpoint) : String := ",".intercalate e.methods

end Endpoint

/-- The service behind HTTP. -/
structure Server where
  service : Service
  /-- Whether cookies are sent over secure connections only. -/
  secureCookies : Bool
  /-- How long a request may take, in nanoseconds. -/
  requestTimeout : Nat

/-- An answer to a request; it may fail to come about when a time lies outside the calendar. -/
abbrev Answer : Type := Except Time.Overflow Response

namespace Server

def refuse (r : Refusal) : Answer := .ok r.response

def cookieOfAccess (s : Server) (token : String) : Cookie :=
  .ofToken accessCookie token s.service.authenticator.accessLifetime s.secureCookies

def cookieOfRefresh (s : Server) (token : String) : Cookie :=
  .ofToken refreshCookie token s.service.authenticator.refreshLifetime s.secureCookies

def answerRegister : Except AccountFault Account → Answer
  | .error fault => refuse (.ofAccountFault fault)
  | .ok account => .ok (.ofData 201 (.object [("id", .text account.id.text),
      ("userName", .text account.userName.text),
      ("createdAt", .text (account.createdAt.rfc3339 "Z"))]))

def answerLogin (s : Server) (result : Except AccountFault TokenPair) : Answer :=
  match result with
  | .error fault => refuse (.ofAccountFault fault)
  | .ok pair => .ok { Response.ofData 200 (.object [("accessToken", .text pair.access),
      ("refreshToken", .text pair.refresh)]) with
      cookies := [(s.cookieOfAccess pair.access).header, (s.cookieOfRefresh pair.refresh).header] }

def answerRefresh (s : Server) (result : Except AccountFault String) : Answer :=
  match result with
  | .error fault => refuse (.ofAccountFault fault)
  | .ok token => .ok { Response.ofData 200 (.object [("accessToken", .text token)]) with
      cookies := [(s.cookieOfAccess token).header] }

/-- Registers whom the body of a request describes. -/
def register (s : Server) (ambient : Ambient) (r : Request) : StoreDialogue Answer :=
  match r.readBody RegisterBody.reader with
  | .error fault => pure (refuse (.badRequest fault.message))
  | .ok body =>
    match body.toRegistration with
    | .error refusal => pure (refuse refusal)
    | .ok order => do pure (answerRegister (← s.service.register ambient order))

/-- Logs in with the credentials in the body of a request. -/
def login (s : Server) (ambient : Ambient) (r : Request) : StoreDialogue Answer :=
  match r.readBody LoginBody.reader with
  | .error fault => pure (refuse (.badRequest fault.message))
  | .ok body => do
    let result ← s.service.authenticate ambient body.userName body.password
    pure (result.bind s.answerLogin)

/-- The refresh token that a request presents: the one in its body, or else the one in its cookie.
A body that cannot be read counts as none. -/
def presentedToken (r : Request) : String :=
  let inBody := (r.readBody RefreshBody.reader).toOption.bind (·.refreshToken)
  ((inBody.filter (· != "")).or (r.cookie? refreshCookie)).getD ""

/-- Exchanges the refresh token of a request. -/
def refresh (s : Server) (ambient : Ambient) (r : Request) : StoreDialogue Answer := do
  let result ← s.service.refresh ambient (presentedToken r)
  pure (result.bind s.answerRefresh)

end Server

end Accounts.Http
