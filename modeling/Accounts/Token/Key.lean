import Accounts.Token.Fault

/-!
# Signing keys

A key is a secret that is not empty. A key ring has one key for each purpose; access and refresh
tokens may not share a secret.
-/

namespace Accounts.Token

/-- A secret that signs and verifies. -/
structure Key where
  secret : List UInt8
  secret_ne_nil : secret ≠ []
deriving DecidableEq

def Key.ofSecret (secret : List UInt8) : Except Fault { key : Key // key.secret = secret } :=
  if h : secret = [] then .error (.invalidKey .emptySecret) else .ok ⟨⟨secret, h⟩, rfl⟩

/-- One key for each purpose. -/
structure KeyRing where
  access : Key
  refresh : Key
  cursor : Key
  access_ne_refresh : access.secret ≠ refresh.secret

namespace KeyRing

/-- The ring of three secrets. That two of them are equal is noticed first, then which one is
empty. -/
def ofSecrets (access refresh cursor : List UInt8) : Except Fault KeyRing :=
  if h : access = refresh then .error (.invalidKey .sharedSecret)
  else do
    let ⟨accessKey, haccess⟩ ← Key.ofSecret access
    let ⟨refreshKey, hrefresh⟩ ← Key.ofSecret refresh
    let ⟨cursorKey, _⟩ ← Key.ofSecret cursor
    pure ⟨accessKey, refreshKey, cursorKey, by rwa [haccess, hrefresh]⟩

def key (ring : KeyRing) : Purpose → Key
  | .access => ring.access
  | .refresh => ring.refresh
  | .cursor => ring.cursor

/-- The ring as it may be shown: without its secrets. -/
def redacted (_ : KeyRing) : String :=
  "KeyRing \x7b access: SigningKey(..), refresh: SigningKey(..), cursor: SigningKey(..) \x7d"

end KeyRing

end Accounts.Token
