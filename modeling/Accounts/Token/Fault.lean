import Accounts.Text.Base64
import Accounts.Json.Fault
import Accounts.Token.Purpose

/-!
# What can be wrong with a token

Tokens are rejected with a cause; causes of malformation are grouped under one heading in messages.
-/

namespace Accounts.Token

/-- Claims that a token has to make. -/
inductive RequiredClaim where
  | expiry
  | notBefore
  | subject
deriving DecidableEq, Repr

def RequiredClaim.name : RequiredClaim → String
  | expiry => "exp"
  | notBefore => "nbf"
  | subject => "sub"

/-- Ways in which a text is not an acceptable token. -/
inductive Malformation where
  /-- There are fewer than three segments. -/
  | segments
  | base64 (fault : Base64.Fault)
  /-- A segment is not the JSON it should be; the fault is given in words. -/
  | json (fault : String)
  /-- The signature is made by another method. -/
  | algorithm
  | missingClaim (claim : RequiredClaim)
  /-- The token is meant for a certain audience. -/
  | audience
  /-- Another cause, given in words. -/
  | other (detail : String)
deriving DecidableEq, Repr

def Malformation.message : Malformation → String
  | segments => "InvalidToken"
  | base64 fault => "Base64 error: " ++ fault.message
  | json fault => "JSON error: " ++ fault
  | algorithm => "InvalidAlgorithm"
  | missingClaim claim => "Missing required claim: " ++ claim.name
  | audience => "InvalidAudience"
  | other detail => detail

/-- Why a signing key is refused. -/
inductive KeyFault where
  | emptySecret
  /-- Access and refresh tokens would be signed with the same secret. -/
  | sharedSecret
  /-- Another cause, given in words. -/
  | other (detail : String)
deriving DecidableEq, Repr

def KeyFault.message : KeyFault → String
  | emptySecret => "secret must not be empty"
  | sharedSecret => "access and refresh secrets must differ"
  | other detail => detail

/-- What can go wrong with a token. -/
inductive Fault where
  | encodingFailed (detail : String)
  | malformed (cause : Malformation)
  | badSignature
  | expired
  | notYetValid
  | wrongPurpose (expected actual : Purpose)
  | invalidSubject (detail : String)
  | invalidKey (cause : KeyFault)
deriving DecidableEq, Repr

def Fault.message : Fault → String
  | encodingFailed detail => "Failed to encode token: " ++ detail
  | malformed cause => "Malformed token: " ++ cause.message
  | badSignature => "Token signature is invalid"
  | expired => "Token is expired"
  | notYetValid => "Token is not valid yet"
  | wrongPurpose expected actual =>
    "Expected " ++ expected.name ++ " token, got " ++ actual.name
  | invalidSubject detail => "Invalid subject claim: " ++ detail
  | invalidKey cause => "Invalid signing key: " ++ cause.message

end Accounts.Token
