import Accounts.Number.Integer
import Accounts.Token.Claims
import Accounts.Token.Fault

/-!
# Identifiers of accounts

Accounts are numbered from one. A text names an account if it is a positive integer of 64 bits in
decimal; that text is the subject of the account's tokens.
-/

namespace Accounts

/-- The number of an account. -/
structure AccountId where
  value : Int
deriving DecidableEq, Repr

/-- Why a text names no account. -/
inductive AccountIdFault where
  /-- The text is unusable for the given reason. -/
  | invalidFormat (detail : String)
deriving DecidableEq, Repr

def AccountIdFault.message : AccountIdFault → String
  | invalidFormat detail => "Invalid account id: " ++ detail

namespace AccountId

/-- The number in decimal. -/
def text (id : AccountId) : String := toString id.value

/-- The account that a text names. -/
def ofText (text : String) : Except AccountIdFault AccountId :=
  match Integer.parseInt Integer.maxSigned64 text.toList with
  | .ok n => if 0 < n then .ok ⟨n⟩ else .error (.invalidFormat (toString n))
  | .error fault => .error (.invalidFormat (text ++ ": " ++ fault.message))

end AccountId

namespace Token.Claims

/-- The subject read by `read`, which gives a reason when it cannot. The fault repeats the
subject. -/
def readSubject {α : Type} (c : Claims) (read : String → Except String α) : Except Fault α :=
  match read c.subject with
  | .ok a => .ok a
  | .error reason => .error (.invalidSubject (c.subject ++ ": " ++ reason))

/-- The account that the claims are about. -/
def accountId (c : Claims) : Except Fault AccountId :=
  c.readSubject fun subject => (AccountId.ofText subject).mapError AccountIdFault.message

/-- The subject as a signed number of 64 bits. -/
def signedSubject (c : Claims) : Except Fault Int :=
  c.readSubject fun subject =>
    (Integer.parseInt Integer.maxSigned64 subject.toList).mapError IntegerFault.message

/-- The subject as an unsigned number of 8 bits. -/
def byteSubject (c : Claims) : Except Fault Nat :=
  c.readSubject fun subject =>
    (Integer.parseNat Integer.maxUnsigned8 subject.toList).mapError IntegerFault.message

end Token.Claims

end Accounts
