import Accounts.Http.Endpoint

/-!
# Routing

A request goes to the endpoint with its path. Every response may be read by scripts of any origin; a
request that is out of time gets an empty answer; what answers `HEAD` has no body.
-/

namespace Accounts.Http

/-- The headers that let scripts of any origin read a response. -/
def openHeaders : List (String × String) :=
  [("access-control-allow-origin", "*"),
    ("vary", "origin, access-control-request-method, access-control-request-headers")]

/-- The headers of an answer to a question for permission. -/
def permissionHeaders : List (String × String) :=
  openHeaders ++ [("access-control-allow-methods", "*"), ("access-control-allow-headers", "*")]

/-- The headers of any other response. -/
def exposureHeaders : List (String × String) :=
  openHeaders ++ [("access-control-expose-headers", "*")]

namespace Server

/-- The empty response of a request that is out of time. -/
def timedOut : Response := { status := 408 }

/-- Cuts a request off that waits for the store in vain: it is answered when its own time is up,
unless the service gives the store up before. -/
def limit (s : Server) : StoreDialogue Answer → StoreDialogue Answer
  | .done answer => .done answer
  | .ask call next => .ask call fun answer =>
    match answer with
    | some result => s.limit (next (some result))
    | none =>
      if s.requestTimeout ≤ s.service.lookupTimeout then .done (.ok timedOut)
      else s.limit (next none)

/-- The answer of an endpoint to a request by one of its methods. -/
def serve (s : Server) (ambient : Ambient) (e : Endpoint) (r : Request) : StoreDialogue Answer :=
  match e with
  | .health => pure (.ok (.ofData 200 (.text "OK")))
  | .register => s.register ambient r
  | .login => s.login ambient r
  | .refresh => s.refresh ambient r
  | .session =>
    match Session.ofRequest s.service.authenticator ambient.now r with
    | .error refusal => pure (refuse refusal)
    | .ok session => pure (.ok (.ofData 200 session.toJson))

/-- The response to a request by a method that the endpoint does not take. The session of the asker
is checked all the same. -/
def refuseMethod (s : Server) (ambient : Ambient) (e : Endpoint) (r : Request) : Response :=
  let refused : Response :=
    match e, Session.ofRequest s.service.authenticator ambient.now r with
    | .session, .error refusal => refusal.response
    | _, _ => { status := 405 }
  refused.withHeaders [("allow", e.allow)]

/-- The answer to a request, whatever its origin. -/
def route (s : Server) (ambient : Ambient) (r : Request) : StoreDialogue Answer :=
  match Endpoint.ofPath? r.path with
  | none => pure (.ok { status := 404 })
  | some e =>
    if e.methods.contains r.method then s.limit (s.serve ambient e r)
    else pure (.ok (s.refuseMethod ambient e r))

/-- What the methods `OPTIONS` and `HEAD` and the origin make of a response. -/
def finish (method : String) (response : Response) : Response :=
  let open_ := response.withHeaders exposureHeaders
  if method = "HEAD" then open_.withoutBody else open_

/-- The answer to the question what is permitted. -/
def permission (r : Request) : Response :=
  let allow := (Endpoint.ofPath? r.path).map fun e => ("allow", e.allow)
  { status := 200, headers := permissionHeaders ++ allow.toList }

/-- The answer to a request. -/
def handle (s : Server) (ambient : Ambient) (r : Request) : StoreDialogue Answer :=
  if r.method = "OPTIONS" then pure (.ok (permission r))
  else do
    let answer ← s.route ambient r
    pure (answer.map (finish r.method))

end Server

end Accounts.Http
