import Accounts.Json.Value

/-!
# Requests and responses

Messages of HTTP as far as this service looks at them. Names of headers are compared without regard
to case; a response carries its cookies apart from its other headers.
-/

namespace Accounts.Http

structure Request where
  method : String
  /-- The target: a path, possibly followed by a query. -/
  target : String
  /-- Names and values in the order in which they were sent. -/
  headers : List (String × List UInt8)
  body : List UInt8

structure Response where
  status : Nat
  headers : List (String × String) := []
  /-- The values of the `Set-Cookie` headers. -/
  cookies : List String := []
  /-- The body, unless it is empty. -/
  body : Option Json := none

namespace Request

def path (r : Request) : String :=
  String.ofList (r.target.toList.takeWhile fun c => c != '?' && c != '#')

/-- The values of a header whose name is given in lower case. -/
def headerValues (r : Request) (name : String) : List (List UInt8) :=
  (r.headers.filter fun (n, _) => n.toLower == name).map (·.2)

/-- The first value of a header whose name is given in lower case. -/
def header? (r : Request) (name : String) : Option (List UInt8) := (r.headerValues name).head?

end Request

/-- Whether a byte is a visible ASCII character, a space or a tab. -/
def isVisible (b : UInt8) : Bool := (32 ≤ b && b < 127) || b == 9

/-- The value of a header as text, if all of it is visible. -/
def visibleText? (value : List UInt8) : Option (List Char) :=
  if value.all isVisible then some (value.map fun b => Char.ofNat b.toNat) else none

/-- Whether a character may stand in a token. -/
def isTokenChar (c : Char) : Bool := c.isAlphanum || "!#$%&'*+-.^_\x60|~".toList.contains c

namespace Response

def bodyText (r : Response) : String := (r.body.map Json.compact).getD ""

def withHeaders (r : Response) (headers : List (String × String)) : Response :=
  { r with headers := r.headers ++ headers }

def withoutBody (r : Response) : Response := { r with body := none }

end Response

end Accounts.Http
