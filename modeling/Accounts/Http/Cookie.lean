import Accounts.Http.Message
import Accounts.Text.Percent
import Accounts.Text.Split
import Accounts.Text.Trim
import Accounts.Time.Instant

/-!
# Cookies

Tokens travel in cookies that scripts cannot read and that live as long as the token. Names and
values are percent-encoded when they are written and decoded when they are read.
-/

namespace Accounts.Http

/-- A cookie that is to be set for the whole site. -/
structure Cookie where
  name : String
  value : String
  /-- How long the cookie lives, in seconds. -/
  maxAge : Int
  /-- Whether it is sent over secure connections only. -/
  isSecure : Bool
deriving DecidableEq, Repr

/-- The cookie that holds an access token. -/
def accessCookie : String := "accessToken"

/-- The cookie that holds a refresh token. -/
def refreshCookie : String := "refreshToken"

namespace Cookie

/-- The cookie of a token, which lives as long as the token. -/
def ofToken (name token : String) (lifetime : Time.Span) (isSecure : Bool) : Cookie :=
  ⟨name, token, lifetime.wholeSeconds, isSecure⟩

/-- Whether a byte stands for itself in a cookie. -/
def isPlain (b : UInt8) : Bool :=
  let c := Char.ofNat b.toNat
  c.isAlphanum || "!$&'*+-._~".toList.contains c

/-- A name or a value as it is written. -/
def encoded (text : String) : String := String.ofList (Percent.encode isPlain (Utf8.encode text))

/-- What follows the name and the value. -/
def attributes (c : Cookie) : String :=
  "; HttpOnly; SameSite=Lax" ++ (if c.isSecure then "; Secure" else "") ++ "; Path=/; Max-Age=" ++
    toString c.maxAge

/-- The cookie with its value as it is. -/
def plain (c : Cookie) : String := c.name ++ "=" ++ c.value ++ c.attributes

/-- The cookie as it is written into a header. -/
def header (c : Cookie) : String := encoded c.name ++ "=" ++ encoded c.value ++ c.attributes

/-- A name or a value as it was before it was written. -/
def decoded? (text : List Char) : Option String :=
  Utf8.decode? (Percent.decode (Utf8.encode (String.ofList text)))

/-- The name and the value in a piece of a `Cookie` header. -/
def ofPiece? (piece : List Char) : Option (String × String) :=
  match Text.splitFirst '=' piece with
  | none => none
  | some (name, value) =>
    let name := Text.trim name
    if name.isEmpty then none
    else do return (← decoded? name, ← decoded? (Text.trim value))

end Cookie

namespace Request

/-- The names and values of the cookies that came with a request. Headers that are not all visible
are ignored. -/
def cookies (r : Request) : List (String × String) :=
  ((r.headerValues "cookie").filterMap visibleText?).flatMap fun text =>
    (Text.split ';' text).filterMap Cookie.ofPiece?

/-- The value of a cookie. Of equal names the last counts. -/
def cookie? (r : Request) (name : String) : Option String := r.cookies.reverse.lookup name

end Request

end Accounts.Http
