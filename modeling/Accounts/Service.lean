import Accounts.Authenticator
import Accounts.Store.Calls

/-!
# The account service

Registration, login and refresh over any account store. Every operation puts at most one question to
the store and waits for the answer for a limited time. Faults tell those who may not log in nothing
about why.
-/

namespace Accounts

/-- An account service: its authenticator, and how long it waits for the store, in nanoseconds. -/
structure Service where
  authenticator : Authenticator
  lookupTimeout : Nat

/-- What one operation takes from outside: readings of the clock, random bytes, and how products are
computed. -/
structure Ambient where
  /-- The second in which presented tokens are validated. -/
  now : Nat
  /-- The salt of a new password hash. -/
  salt : Password.Salt
  /-- What a new access token is stamped with. -/
  access : Token.Stamp
  /-- What a new refresh token is stamped with. -/
  refresh : Token.Stamp
  arithmetic : Arithmetic

namespace Service

/-- How long the service waits unless told otherwise: 30 seconds. -/
def standardTimeout : Nat := 30 * 1000000000

/-- Puts a question to the store. -/
def consult (s : Service) (call : StoreCall) : StoreDialogue (Except StoreFault call.Result) :=
  .ask call fun answer => .done (answer.getD (.error (.timeout s.lookupTimeout)))

/-- Waits for a task on a thread of its own. -/
def runBlocking {α : Type} (task : Except Breakdown α) : Except AccountFault α :=
  task.mapError fun breakdown => .internal ("Blocking task failed: " ++ breakdown.report)

@[simp] theorem runBlocking_ok {α : Type} (a : α) : runBlocking (.ok a) = .ok a := rfl

/-- What is said about any failed login. -/
def rejectedLogin : AccountFault := .unauthorized "Invalid credentials"

/-- What is said about any failed refresh. -/
def rejectedRefresh : AccountFault := .unauthorized "Invalid or expired refresh token"

/-- What comes of a registration, given the store's answer. -/
def confirm (stored : Except StoreFault Account) : Except AccountFault Account :=
  match stored with
  | .ok account => .ok account
  | .error (.alreadyExists _) => .error (.invalidRequest "user existed")
  | .error fault => .error (.internal ("Failed to store account: " ++ fault.message))

/-- Registers an account under a fresh hash of the password. -/
def register (s : Service) (ambient : Ambient) (order : Registration) :
    StoreDialogue (Except AccountFault Account) :=
  -- The costs of a hasher have been checked, so nothing breaks off the task.
  match runBlocking (.ok (s.authenticator.hasher.hash ambient.salt order.password)) with
  | .error fault => pure (.error fault)
  | .ok (.error fault) => pure (.error (.internal ("Password hashing failed: " ++ fault.message)))
  | .ok (.ok passwordHash) => do
    let stored ← s.consult (.register ⟨order.userName, passwordHash, order.profile⟩)
    pure (confirm stored)

/-- The tokens of a login with good credentials, given the store's answer. -/
def grant (s : Service) (ambient : Ambient) (password : String)
    (found : Except StoreFault (Option Account)) :
    Except Time.Overflow (Except AccountFault TokenPair) :=
  match found with
  | .error _ => .ok (.error rejectedLogin)
  | .ok found =>
    match found.filter (·.isUsable) with
    | none => .ok (.error rejectedLogin)
    | some account =>
      match runBlocking
          (Password.verifyUnder ambient.arithmetic password account.passwordHash) with
      | .error fault => .ok (.error fault)
      | .ok (.ok true) =>
        (s.authenticator.issuePair ambient.access ambient.refresh account.id.text).map .ok
      | _ => .ok (.error rejectedLogin)

/-- A pair of tokens for a user name and a password. -/
def authenticate (s : Service) (ambient : Ambient) (userName password : String) :
    StoreDialogue (Except Time.Overflow (Except AccountFault TokenPair)) :=
  match Credentials.ofTexts userName password with
  | .error fault => pure (.ok (.error (.ofCredentials fault)))
  | .ok credentials => do
    let found ← s.consult (.findByName credentials.userName)
    pure (s.grant ambient credentials.password found)

/-- The access token of a refresh with a good token, given the store's answer. -/
def renew (s : Service) (ambient : Ambient) (found : Except StoreFault (Option Account)) :
    Except Time.Overflow (Except AccountFault String) :=
  match found with
  | .error fault => .ok (.error (.internal ("Account lookup failed: " ++ fault.message)))
  | .ok found =>
    match found.filter (·.isUsable) with
    | none => .ok (.error rejectedRefresh)
    | some account => (s.authenticator.issueAccess ambient.access account.id.text).map .ok

/-- The account that a refresh token is about. -/
def refreshedAccount (s : Service) (now : Nat) (token : String) : Except Token.Fault AccountId := do
  (← s.authenticator.validate now token .refresh).accountId

/-- A new access token for a refresh token, which stays valid. -/
def refresh (s : Service) (ambient : Ambient) (token : String) :
    StoreDialogue (Except Time.Overflow (Except AccountFault String)) :=
  if Text.isBlankText token then pure (.ok (.error (.invalidRequest "Refresh token is required")))
  else
    match s.refreshedAccount ambient.now token with
    | .error _ => pure (.ok (.error rejectedRefresh))
    | .ok id => do
      let found ← s.consult (.findById id)
      pure (s.renew ambient found)

end Service

end Accounts
