import Accounts.Mailbox
import Accounts.Text.Quoted

/-!
# Profiles

What a person may tell about themselves when they register. Every detail is optional; a phone number
consists of digits, an e-mail address is a mailbox, and a gender is one of three words.
-/

namespace Accounts

/-- The genders that can be given. -/
inductive Gender where
  | male
  | female
  | other
deriving DecidableEq, Repr

/-- Why a detail of a profile is refused. -/
inductive ProfileFault where
  /-- The address is no mailbox, for the given reason. -/
  | invalidEmail (reason : String)
  /-- The given word is no gender. -/
  | invalidGender (word : String)
  | invalidPhone
deriving DecidableEq, Repr

def ProfileFault.message : ProfileFault → String
  | invalidEmail reason => "Invalid email format: " ++ reason
  | invalidGender word => "Gender must be one of male, female, other; got " ++ word
  | invalidPhone => "Phone number must contain digits only"

namespace Gender

/-- The word for a gender. -/
def text : Gender → String
  | male => "male"
  | female => "female"
  | other => "other"

/-- The gender as it is shown in a record. -/
def shown : Gender → String
  | male => "Male"
  | female => "Female"
  | other => "Other"

/-- The gender that a word stands for. -/
def ofText (word : String) : Except ProfileFault Gender :=
  if word = "male" then .ok male
  else if word = "female" then .ok female
  else if word = "other" then .ok other
  else .error (.invalidGender word)

end Gender

/-- A phone number: one or more decimal digits. -/
structure PhoneNumber where
  text : String
  ne_empty : text.toList ≠ []
  isDigit_of_mem : ∀ c ∈ text.toList, c.isDigit = true
deriving DecidableEq

def PhoneNumber.ofText (text : String) : Except ProfileFault PhoneNumber :=
  if h : text.toList.isEmpty = false ∧ text.toList.all Char.isDigit = true then
    .ok ⟨text, List.isEmpty_eq_false_iff.mp h.1, List.all_eq_true.mp h.2⟩
  else .error .invalidPhone

/-- The details of a person. -/
structure Profile where
  name : Option String := none
  phone : Option PhoneNumber := none
  email : Option Mailbox := none
  gender : Option Gender := none
deriving DecidableEq

namespace Profile

def empty : Profile := {}

def isEmpty (p : Profile) : Bool :=
  p.name.isNone && p.phone.isNone && p.email.isNone && p.gender.isNone

/-- The profile with the given details. They are checked in the order phone, e-mail, gender. -/
def ofTexts (name phone email gender : Option String) : Except ProfileFault Profile := do
  let phone ← phone.mapM PhoneNumber.ofText
  let email ← email.mapM fun text =>
    (Mailbox.ofText text).mapError fun fault => .invalidEmail fault.message
  let gender ← gender.mapM Gender.ofText
  pure { name, phone, email, gender }

/-- An optional text as it is shown in a record. -/
def shownOption : Option String → String
  | none => "None"
  | some text => "Some(" ++ text ++ ")"

/-- The profile as it is shown in a record. -/
def shown (p : Profile) : String :=
  "AccountProfile \x7b name: " ++ shownOption (p.name.map Text.quoted) ++
    ", phone: " ++ shownOption (p.phone.map (Text.quoted ·.text)) ++
    ", email: " ++ shownOption (p.email.map (Text.quoted ·.text)) ++
    ", gender: " ++ shownOption (p.gender.map Gender.shown) ++ " \x7d"

end Profile

end Accounts
