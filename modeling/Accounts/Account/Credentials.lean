import Accounts.Account.Profile
import Accounts.Account.UserName

/-!
# Credentials

What a person presents to log in, and what they give to register. Both hold a password, which is
never shown.
-/

namespace Accounts

/-- Why credentials are refused before anything is looked up. -/
inductive CredentialsFault where
  | userName (fault : UserNameFault)
  | emptyPassword
deriving DecidableEq, Repr

def CredentialsFault.message : CredentialsFault → String
  | userName fault => "Invalid user name: " ++ fault.message
  | emptyPassword => "Password is required"

/-- What stands in place of a password. -/
def redactedText : String := Text.quoted "<redacted>"

/-- A user name and a password that is not empty. -/
structure Credentials where
  userName : UserName
  password : String
  password_ne_empty : password ≠ ""

namespace Credentials

def ofTexts (userName password : String) : Except CredentialsFault Credentials := do
  let userName ← (UserName.ofText userName).mapError .userName
  if h : password = "" then .error .emptyPassword else pure ⟨userName, password, h⟩

/-- The credentials as they may be shown. -/
def shown (c : Credentials) : String :=
  "Credentials \x7b user_name: " ++ c.userName.shown ++ ", password: " ++ redactedText ++ " \x7d"

end Credentials

/-- An order to register an account. -/
structure Registration where
  userName : UserName
  password : String
  profile : Profile
  password_ne_empty : password ≠ ""

namespace Registration

def new (userName : UserName) (password : String) (profile : Profile) :
    Except CredentialsFault Registration :=
  if h : password = "" then .error .emptyPassword else .ok ⟨userName, password, profile, h⟩

/-- The order as it may be shown. -/
def shown (r : Registration) : String :=
  "RegisterCommand \x7b user_name: " ++ r.userName.shown ++ ", password: " ++ redactedText ++
    ", profile: " ++ r.profile.shown ++ " \x7d"

end Registration

end Accounts
