import Accounts.Account.Basic
import Accounts.Dialogue

/-!
# Questions to an account store

The service knows a store only by the questions it can put to it. A store answers, fails, or does
not answer in time.
-/

namespace Accounts

/-- A question to an account store. -/
inductive StoreCall where
  /-- The usable account with a name. -/
  | findByName (userName : UserName)
  /-- The usable account with a number. -/
  | findById (id : AccountId)
  /-- Stores a new account, or makes one of the same name usable again. -/
  | register (account : NewAccount)

namespace StoreCall

/-- What an answer to a question holds. -/
abbrev Result : StoreCall → Type
  | findByName _ => Option Account
  | findById _ => Option Account
  | register _ => Account

/-- What comes back from the store; `none` if there is no answer in time. -/
abbrev Answer (call : StoreCall) : Type := Option (Except StoreFault call.Result)

end StoreCall

/-- A computation with questions to an account store. -/
abbrev StoreDialogue (α : Type) : Type := Dialogue StoreCall StoreCall.Answer α

end Accounts
