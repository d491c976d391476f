import Accounts.Authenticator
import Accounts.Json.Record

/-!
# Configuration

The configuration of the service: its database, its server, its tokens and the costs of its
passwords, one section each. The authenticator's settings are derived from it.
-/

namespace Accounts

/-- How the database is reached. -/
structure DatabaseSettings where
  url : String
  maxConnections : Nat
  /-- Seconds to wait for a connection. -/
  acquireTimeout : Nat
deriving DecidableEq, Repr

/-- How requests are served. -/
structure ServerSettings where
  httpPort : Nat
  /-- Seconds that a request may take. -/
  requestTimeout : Nat
  secureCookies : Bool
deriving DecidableEq, Repr

/-- How tokens are signed. Each purpose has a secret of its own. -/
structure TokenSettings where
  issuer : String
  accessSecret : String
  refreshSecret : String
  cursorSecret : String
  accessMinutes : Int
  refreshHours : Int
deriving DecidableEq, Repr

/-- What a new hash of a password costs. -/
structure PasswordSettings where
  memory : Nat
  iterations : Nat
  parallelism : Nat
deriving DecidableEq, Repr

structure Configuration where
  database : DatabaseSettings
  server : ServerSettings
  token : TokenSettings
  password : PasswordSettings
deriving DecidableEq, Repr

/-- The description of the settings, without the secrets. -/
def TokenSettings.redacted (s : TokenSettings) : String :=
  let hidden := Text.quoted "<redacted>"
  "JwtConfig \x7b issuer: " ++ Text.quoted s.issuer ++ ", access_secret: " ++ hidden ++
    ", refresh_secret: " ++ hidden ++ ", cursor_secret: " ++ hidden ++
    ", access_ttl_minutes: " ++ toString s.accessMinutes ++
    ", refresh_ttl_hours: " ++ toString s.refreshHours ++ " \x7d"

namespace Configuration

/-- The settings of the authenticator, whose keys have the standard length. A lifetime may be out of
bounds; that of access tokens is looked at first. -/
def authSettings (c : Configuration) : Except Time.Overflow AuthSettings := do
  let accessLifetime ← Time.Span.ofMinutes? c.token.accessMinutes
  let refreshLifetime ← Time.Span.ofHours? c.token.refreshHours
  pure {
    accessSecret := c.token.accessSecret
    refreshSecret := c.token.refreshSecret
    cursorSecret := c.token.cursorSecret
    issuer := c.token.issuer
    accessLifetime := accessLifetime
    refreshLifetime := refreshLifetime
    cost := { Password.Cost.standard with
      memory := c.password.memory
      iterations := c.password.iterations
      parallelism := c.password.parallelism } }

/-- The time a request may take, in nanoseconds. -/
def requestTimeout (c : Configuration) : Nat := c.server.requestTimeout * 1000000000

end Configuration

/-! ## Reading -/

section Reading

variable {V ε : Type} (source : Record.Source V ε)

def DatabaseSettings.read (v : V) : Except ε DatabaseSettings :=
  ((Record.Form.start DatabaseSettings.mk)
    |>.field "url" source.text
    |>.field "max_connections" (source.natural 32)
    |>.field "acquire_timeout_secs" (source.natural 64)).read source "struct DatabaseConfig" v

def ServerSettings.read (v : V) : Except ε ServerSettings :=
  ((Record.Form.start ServerSettings.mk)
    |>.field "http_port" (source.natural 16)
    |>.field "request_timeout_secs" (source.natural 64)
    |>.field "secure_cookies" source.bool).read source "struct ServerConfig" v

def TokenSettings.read (v : V) : Except ε TokenSettings :=
  ((Record.Form.start TokenSettings.mk)
    |>.field "issuer" source.text
    |>.field "access_secret" source.text
    |>.field "refresh_secret" source.text
    |>.field "cursor_secret" source.text
    |>.field "access_ttl_minutes" source.integer
    |>.field "refresh_ttl_hours" source.integer).read source "struct JwtConfig" v

def PasswordSettings.read (v : V) : Except ε PasswordSettings :=
  ((Record.Form.start PasswordSettings.mk)
    |>.field "memory_kib" (source.natural 32)
    |>.field "iterations" (source.natural 32)
    |>.field "parallelism" (source.natural 32)).read source "struct PasswordConfig" v

def Configuration.read (v : V) : Except ε Configuration :=
  ((Record.Form.start Configuration.mk)
    |>.field "database" (DatabaseSettings.read source)
    |>.field "server" (ServerSettings.read source)
    |>.field "jwt" (TokenSettings.read source)
    |>.field "password" (PasswordSettings.read source)).read source "struct Config" v

end Reading

def Configuration.ofJson (v : Json) : Except Json.FormFault Configuration := read Json.source v

end Accounts
