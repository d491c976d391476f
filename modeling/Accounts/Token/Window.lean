import Accounts.Token.Fault
import Accounts.Json.Value

/-!
# The validity of a payload

A payload is read a second time for the check of its validity. In this reading fields of the wrong
form count as missing: times that are negative or no whole numbers, a subject that is no text, an
audience that is neither a text nor a list of texts.
-/

namespace Accounts.Token

/-- What the check of a payload looks at. -/
structure Window where
  expiry : Option Nat
  notBefore : Option Nat
  hasSubject : Bool
  hasAudience : Bool
deriving DecidableEq, Repr

namespace Window

/-- The fields read so far. -/
structure Draft where
  expiry : Option (Option Nat) := none
  notBefore : Option (Option Nat) := none
  subject : Option Bool := none
  issuer : Option Unit := none
  audience : Option Bool := none

/-- The check of a complete draft. -/
def Draft.finish (d : Draft) : Except Json.FormFault Window :=
  .ok ⟨d.expiry.getD none, d.notBefore.getD none, d.subject.getD false, d.audience.getD false⟩

section Reading

open Json.Reader

def timeReader : Json.Reader (Option Nat) := do
  match ← attempt (value 127) with
  | some (.number (.natural n)) => pure (some n)
  | _ => pure none

def subjectReader : Json.Reader Bool := do
  match ← attempt (optional (string "a string")) with
  | some (some _) => pure true
  | _ => pure false

/-- A text or a list of texts. -/
def isNames : Json → Bool
  | .text _ => true
  | .list elements => elements.all (· matches .text _)
  | _ => false

/-- Reads an issuer or an audience. -/
def namesReader : Json.Reader Bool := do
  match ← attempt (optional (value 127)) with
  | some (some v) => pure (isNames v)
  | _ => pure false

/-- Reads the value of a field into a draft. -/
def member (key : String) (d : Draft) : Json.Reader Draft := do
  match key with
  | "exp" => pure { d with expiry := ← field key d.expiry timeReader }
  | "nbf" => pure { d with notBefore := ← field key d.notBefore timeReader }
  | "sub" => pure { d with subject := ← field key d.subject subjectReader }
  | "iss" => pure { d with issuer := ← field key d.issuer do let _ ← namesReader }
  | "aud" => pure { d with audience := ← field key d.audience namesReader }
  | _ => do
    ignoredField key
    pure d

/-- Reads the values of the fields in order. -/
def positional : Json.Reader Window := do
  let wanted := "struct ClaimsForValidation with 5 elements"
  let expiry ← elementAt 0 wanted timeReader
  let notBefore ← elementAt 1 wanted timeReader
  let hasSubject ← elementAt 2 wanted subjectReader
  let _ ← elementAt 3 wanted namesReader
  let hasAudience ← elementAt 4 wanted namesReader
  pure { expiry, notBefore, hasSubject, hasAudience }

/-- Reads what is checked. -/
def reader : Json.Reader Window :=
  record "struct ClaimsForValidation" member {} Draft.finish positional

end Reading

/-- What is checked about a JSON text. -/
def decode (text : List UInt8) : Except Json.Fault Window := Json.Reader.run reader text

/-- Checks a payload at a time. Presence comes first, then the end of the validity, its start, and
the audience, of which there must be none. -/
def check (w : Window) (now : Nat) : Except Fault Unit :=
  match w.expiry, w.notBefore with
  | none, _ => .error (.malformed (.missingClaim .expiry))
  | some _, none => .error (.malformed (.missingClaim .notBefore))
  | some expiry, some notBefore =>
    if !w.hasSubject then .error (.malformed (.missingClaim .subject))
    else if expiry < now then .error .expired
    else if now < notBefore then .error .notYetValid
    else if w.hasAudience then .error (.malformed .audience)
    else .ok ()

end Window

end Accounts.Token
