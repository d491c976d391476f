import Accounts.Password.Hasher
import Accounts.Token.Codec

/-!
# Authentication

An authenticator hashes and verifies passwords and issues and validates tokens, all with settings
that are fixed once. Its random bytes and readings of the clock are given with each call.
-/

namespace Accounts

/-- Two tokens issued together. -/
structure TokenPair where
  access : String
  refresh : String
deriving DecidableEq, Repr

/-- Failures of authentication. -/
inductive AuthenticationFault where
  /-- The password is wrong. -/
  | invalidCredentials
  | password (fault : Password.Fault)
  | token (fault : Token.Fault)
deriving DecidableEq, Repr

def AuthenticationFault.message : AuthenticationFault → String
  | invalidCredentials => "Invalid credentials"
  | password fault => "Password error: " ++ fault.message
  | token fault => "JWT error: " ++ fault.message

/-- What an authenticator is made from. -/
structure AuthSettings where
  accessSecret : String
  refreshSecret : String
  cursorSecret : String
  issuer : String
  accessLifetime : Time.Span
  refreshLifetime : Time.Span
  cost : Password.Cost

/-- The issuer unless another one is set. -/
def AuthSettings.standardIssuer : String := "account-service"

/-- Hashes, verifies, issues and validates. -/
structure Authenticator where
  hasher : Password.Hasher
  codec : Token.Codec
  accessLifetime : Time.Span
  refreshLifetime : Time.Span

namespace Authenticator

/-- The authenticator with given settings. Secrets are checked before costs. -/
def ofSettings (settings : AuthSettings) : Except AuthenticationFault Authenticator := do
  let keys ← (Token.KeyRing.ofSecrets (Utf8.encode settings.accessSecret)
    (Utf8.encode settings.refreshSecret) (Utf8.encode settings.cursorSecret)).mapError .token
  let hasher ← (Password.Hasher.ofCost settings.cost).mapError .password
  pure {
    hasher
    codec := ⟨keys, settings.issuer⟩
    accessLifetime := settings.accessLifetime
    refreshLifetime := settings.refreshLifetime }

def issueAccess (a : Authenticator) (stamp : Token.Stamp) (subject : String) :
    Except Time.Overflow String :=
  a.codec.issue stamp subject .access a.accessLifetime

def issueRefresh (a : Authenticator) (stamp : Token.Stamp) (subject : String) :
    Except Time.Overflow String :=
  a.codec.issue stamp subject .refresh a.refreshLifetime

/-- A new pair of tokens. The access token is issued first. -/
def issuePair (a : Authenticator) (access refresh : Token.Stamp) (subject : String) :
    Except Time.Overflow TokenPair := do
  let accessToken ← a.issueAccess access subject
  let refreshToken ← a.issueRefresh refresh subject
  pure ⟨accessToken, refreshToken⟩

/-- The claims of a token of the given purpose, at a time in seconds. -/
def validate (a : Authenticator) (now : Nat) (token : String) (purpose : Token.Purpose) :
    Except Token.Fault Token.Claims :=
  a.codec.verify now token purpose

/-- Checks a password against a stored hash. -/
def checkPassword (password stored : String) : Except AuthenticationFault Unit :=
  match Password.verify password stored with
  | .ok true => .ok ()
  | .ok false => .error .invalidCredentials
  | .error fault => .error (.password fault)

/-- A new pair of tokens for whoever knows the password of a stored hash. -/
def authenticate (a : Authenticator) (access refresh : Token.Stamp)
    (password stored subject : String) :
    Except Time.Overflow (Except AuthenticationFault TokenPair) :=
  match checkPassword password stored with
  | .ok () => (a.issuePair access refresh subject).map .ok
  | .error fault => .ok (.error fault)

end Authenticator

end Accounts
