import Accounts.Account.Credentials
import Accounts.Http.Envelope
import Accounts.Http.MediaType

/-!
# Bodies of requests

The forms of the JSON bodies that the endpoints take, and what is said about bodies of another form.
What follows the JSON value in a body is not looked at.
-/

namespace Accounts.Http

structure RegisterBody where
  userName : String
  password : String
  name : Option String
  phone : Option String
  email : Option String
  gender : Option String
deriving DecidableEq, Repr

structure LoginBody where
  userName : String
  password : String
deriving DecidableEq, Repr

structure RefreshBody where
  refreshToken : Option String
deriving DecidableEq, Repr

section Reading

open Json.Reader

def bodyText : Json.Reader String := string "a string"

/-- Reads a text that may be `null`. -/
def optionalText : Json.Reader (Option String) := optional bodyText

/-- A field that has to be there. -/
def requiredField {α : Type} (name : String) : Option α → Except Json.FormFault α
  | some a => .ok a
  | none => .error (.missingField name)

namespace RegisterBody

/-- The fields read so far. -/
structure Draft where
  userName : Option String := none
  password : Option String := none
  name : Option (Option String) := none
  phone : Option (Option String) := none
  email : Option (Option String) := none
  gender : Option (Option String) := none

/-- Reads the value of a field into a draft. -/
def member (key : String) (d : Draft) : Json.Reader Draft := do
  match key with
  | "userName" => pure { d with userName := ← field key d.userName bodyText }
  | "password" => pure { d with password := ← field key d.password bodyText }
  | "name" => pure { d with name := ← field key d.name optionalText }
  | "phone" => pure { d with phone := ← field key d.phone optionalText }
  | "email" => pure { d with email := ← field key d.email optionalText }
  | "gender" => pure { d with gender := ← field key d.gender optionalText }
  | _ => do
    ignoredField key
    pure d

/-- The body of a complete draft. -/
def Draft.finish (d : Draft) : Except Json.FormFault RegisterBody := do
  let userName ← requiredField "userName" d.userName
  let password ← requiredField "password" d.password
  pure ⟨userName, password, d.name.join, d.phone.join, d.email.join, d.gender.join⟩

/-- Reads the values of the fields in order. -/
def positional : Json.Reader RegisterBody := do
  let wanted := "struct RegisterRequestBody with 6 elements"
  let userName ← elementAt 0 wanted bodyText
  let password ← elementAt 1 wanted bodyText
  let name ← elementAt 2 wanted optionalText
  let phone ← elementAt 3 wanted optionalText
  let email ← elementAt 4 wanted optionalText
  let gender ← elementAt 5 wanted optionalText
  pure ⟨userName, password, name, phone, email, gender⟩

def reader : Json.Reader RegisterBody :=
  record "struct RegisterRequestBody" member {} Draft.finish positional

end RegisterBody

namespace LoginBody

structure Draft where
  userName : Option String := none
  password : Option String := none

def member (key : String) (d : Draft) : Json.Reader Draft := do
  match key with
  | "userName" => pure { d with userName := ← field key d.userName bodyText }
  | "password" => pure { d with password := ← field key d.password bodyText }
  | _ => do
    ignoredField key
    pure d

def Draft.finish (d : Draft) : Except Json.FormFault LoginBody := do
  let userName ← requiredField "userName" d.userName
  let password ← requiredField "password" d.password
  pure ⟨userName, password⟩

def positional : Json.Reader LoginBody := do
  let wanted := "struct LoginRequestBody with 2 elements"
  let userName ← elementAt 0 wanted bodyText
  let password ← elementAt 1 wanted bodyText
  pure ⟨userName, password⟩

def reader : Json.Reader LoginBody :=
  record "struct LoginRequestBody" member {} Draft.finish positional

end LoginBody

namespace RefreshBody

/-- Reads the value of a field into what has been read so far. -/
def member (key : String) (token : Option (Option String)) :
    Json.Reader (Option (Option String)) := do
  match key with
  | "refreshToken" => field key token optionalText
  | _ => do
    ignoredField key
    pure token

/-- Reads the values of the fields in order; the token may be left out. -/
def positional : Json.Reader RefreshBody := do
  if ← nextElement true then do
    let token ← inField "[0]" optionalText
    pure ⟨token⟩
  else pure ⟨none⟩

def reader : Json.Reader RefreshBody :=
  record "struct RefreshRequestBody" member none (fun token => .ok ⟨token.join⟩) positional

end RefreshBody

end Reading

/-- Why a body is refused. -/
inductive BodyFault where
  /-- The body is not said to be JSON. -/
  | contentType
  /-- The body is too large. -/
  | tooLarge
  /-- The body is not JSON, or not of the wanted form. -/
  | json (fault : Json.Fault) (body : List UInt8)

/-- The most bytes of a body. -/
def maxBodySize : Nat := 2 * 1024 * 1024

def BodyFault.message : BodyFault → String
  | contentType => "Expected request with \x60Content-Type: application/json\x60"
  | tooLarge => "Failed to buffer the request body: length limit exceeded"
  | json fault body =>
    let heading :=
      match fault.cause with
      | .syntactic _ => "Failed to parse the request body as JSON: "
      | .form _ => "Failed to deserialize the JSON body into the target type: "
    let place := (fault.field.map (· ++ ": ")).getD ""
    heading ++ place ++ fault.message body

/-- The body of a request, read with `reader`. -/
def Request.readBody {α : Type} (r : Request) (reader : Json.Reader α) : Except BodyFault α :=
  if !r.announcesJson then .error .contentType
  else if maxBodySize < r.body.length then .error .tooLarge
  else
    match Json.Reader.runFront reader r.body with
    | .ok a => .ok a
    | .error fault => .error (.json fault r.body)

namespace RegisterBody

/-- The order that a body stands for. The user name is checked first, then the profile, then the
password. -/
def toRegistration (b : RegisterBody) : Except Refusal Registration := do
  let userName ← (UserName.ofText b.userName).mapError fun fault =>
    .badRequest ("Invalid user name: " ++ fault.message)
  let profile ← (Profile.ofTexts b.name b.phone b.email b.gender).mapError fun fault =>
    .badRequest ("Invalid profile: " ++ fault.message)
  (Registration.new userName b.password profile).mapError fun fault => .badRequest fault.message

end RegisterBody

end Accounts.Http
