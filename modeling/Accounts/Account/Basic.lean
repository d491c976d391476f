import Accounts.Account.Credentials
import Accounts.Account.Id
import Accounts.Time.Instant

/-!
# Accounts

An account as it is stored. Accounts that are no longer active, or deleted, are kept but cannot be
used.
-/

namespace Accounts

/-- A registered account. -/
structure Account where
  id : AccountId
  userName : UserName
  /-- The stored hash of the password. -/
  passwordHash : String
  isActive : Bool
  isDeleted : Bool
  createdAt : Time.Instant
  updatedAt : Time.Instant
deriving DecidableEq

/-- Whether one may log in with the account. -/
def Account.isUsable (a : Account) : Bool := a.isActive && !a.isDeleted

/-- An account that is to be stored. -/
structure NewAccount where
  userName : UserName
  passwordHash : String
  profile : Profile
deriving DecidableEq

/-- Failures of an account store. -/
inductive StoreFault where
  /-- A usable account has this name. -/
  | alreadyExists (userName : String)
  /-- The store failed for the given reason. -/
  | database (detail : String)
  /-- The store did not answer within so many nanoseconds. -/
  | timeout (limit : Nat)
deriving DecidableEq, Repr

def StoreFault.message : StoreFault → String
  | alreadyExists userName => "Account already exists: " ++ userName
  | database detail => "Database error: " ++ detail
  | timeout limit => "Storage did not answer within " ++ Time.durationText limit

/-- Failures of an operation on accounts. -/
inductive AccountFault where
  /-- What was asked for is unacceptable. -/
  | invalidRequest (detail : String)
  /-- Who asked is not entitled to an answer. -/
  | unauthorized (detail : String)
  /-- Something went wrong that is not the asker's business. -/
  | internal (detail : String)
deriving DecidableEq, Repr

namespace AccountFault

def message : AccountFault → String
  | invalidRequest detail => "Invalid request: " ++ detail
  | unauthorized detail => "Unauthorized: " ++ detail
  | internal detail => "Internal error: " ++ detail

def ofCredentials (fault : CredentialsFault) : AccountFault := .invalidRequest fault.message

def ofUserName (fault : UserNameFault) : AccountFault := .invalidRequest fault.message

def ofProfile (fault : ProfileFault) : AccountFault := .invalidRequest fault.message

end AccountFault

end Accounts
