import Accounts.Account.Basic
import Accounts.Http.Message

/-!
# The envelope of responses

Every body repeats the status of its response beside the data. A refusal has a message as its data;
the message of an internal failure is not told.
-/

namespace Accounts.Http

/-- A body: the status and the data. -/
def envelope (status : Nat) (data : Json) : Json :=
  .object [("status_code", .nat status), ("data", data)]

/-- The data of a refusal. -/
def messageData (message : String) : Json := .object [("message", .text message)]

/-- A response with data. -/
def Response.ofData (status : Nat) (data : Json) : Response where
  status := status
  headers := [("content-type", "application/json")]
  body := some (envelope status data)

/-- The ways in which a request is refused. -/
inductive Refusal where
  | badRequest (message : String)
  | unauthorized (message : String)
  | internalError (message : String)
deriving DecidableEq, Repr

namespace Refusal

def status : Refusal → Nat
  | badRequest _ => 400
  | unauthorized _ => 401
  | internalError _ => 500

/-- The message that is told. -/
def told : Refusal → String
  | badRequest message => message
  | unauthorized message => message
  | internalError _ => "Internal error"

/-- The refusal as it is shown in a log. -/
def shown : Refusal → String
  | badRequest message => "BadRequest(" ++ Text.quoted message ++ ")"
  | unauthorized message => "Unauthorized(" ++ Text.quoted message ++ ")"
  | internalError message => "InternalServerError(" ++ Text.quoted message ++ ")"

/-- The response of a refusal. -/
def response (r : Refusal) : Response := .ofData r.status (messageData r.told)

/-- The refusal that a failed operation leads to. -/
def ofAccountFault : AccountFault → Refusal
  | .invalidRequest detail => badRequest detail
  | .unauthorized detail => unauthorized detail
  | .internal detail => internalError detail

end Refusal

end Accounts.Http
