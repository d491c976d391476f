import Accounts.Mailbox
import Accounts.Text.Quoted

/-!
# User names

An account is known by a mailbox.
-/

namespace Accounts

/-- The name of an account: a mailbox. -/
structure UserName where
  mailbox : Mailbox
deriving DecidableEq

/-- Why a text is no user name. -/
inductive UserNameFault where
  /-- The text is blank. -/
  | empty
  /-- The text is no mailbox, for the given reason. -/
  | invalidFormat (reason : String)
deriving DecidableEq, Repr

def UserNameFault.message : UserNameFault → String
  | empty => "User name is required"
  | invalidFormat reason => "User name must be an email address: " ++ reason

namespace UserName

/-- The name as it was given. -/
def text (name : UserName) : String := name.mailbox.text

def ofText (text : String) : Except UserNameFault UserName :=
  if Text.isBlankText text then .error .empty
  else
    match Mailbox.ofText text with
    | .ok mailbox => .ok ⟨mailbox⟩
    | .error fault => .error (.invalidFormat fault.message)

/-- The name as it is shown in a record. -/
def shown (name : UserName) : String := "UserName(" ++ Text.quoted name.text ++ ")"

end UserName

end Accounts
