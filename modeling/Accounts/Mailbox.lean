import Accounts.Text.Alphanumeric
import Accounts.Text.Split
import Accounts.Text.Trim

/-!
# Mailboxes

The mailbox of RFC 5322: a local part and a domain with an `@` between them, alone or in angle
brackets after a display name. A text is checked from left to right in the order of its parts, and
the first fault counts.
-/

namespace Accounts

namespace Mailbox

/-- Why a text is not a mailbox. -/
inductive Fault where
  | missingBracket
  | missingSeparator
  | missingDisplayName
  | emptyLocalPart
  | longLocalPart
  | emptyDomain
  | longDomain
  | emptyLabel
  | longLabel
  | badCharacter
deriving DecidableEq, Repr

/-- The most bytes of a local part. -/
def maxLocalPart : Nat := 64

/-- The most bytes of a domain. -/
def maxDomain : Nat := 254

/-- The most bytes between two dots of a domain. -/
def maxLabel : Nat := 63

def Fault.message : Fault → String
  | missingBracket => "Terminating '>' is missing."
  | missingSeparator => "Missing separator character '@'."
  | missingDisplayName => "Display name was not supplied, but email starts with '<'."
  | emptyLocalPart => "Local part is empty."
  | longLocalPart => "Local part is too long. Length limit: " ++ toString maxLocalPart
  | emptyDomain => "Domain is empty."
  | longDomain => "Domain is too long. Length limit: " ++ toString maxDomain
  | emptyLabel => "A sub-domain is empty."
  | longLabel => "A sub-domain is too long. Length limit: " ++ toString maxLabel
  | badCharacter => "Invalid character."

/-! ## Characters -/

/-- Whether the code point, written in two bytes, looks like a character of two bytes in UTF-8. -/
def isBytePair (c : Char) : Bool :=
  let n := c.toNat
  n < 0x10000 && 0xc2 ≤ n / 256 && n / 256 ≤ 0xdf && 0x80 ≤ n % 256 && n % 256 ≤ 0xbf

/-- Whether a character may stand in an atom. -/
def isAtomChar (c : Char) : Bool :=
  Text.isAlphanumeric c || "!#$%&'*+-/=?^_\x60\x7b|\x7d~".toList.contains c || isBytePair c

/-- Whether a character lies between two others, both included. -/
def inRange (first last c : Char) : Bool := first ≤ c && c ≤ last

/-- Whether a character may stand between quotes without a backslash. -/
def isQuotable (c : Char) : Bool :=
  c == ' ' || c == '\t' || c == '!' || inRange '#' '[' c || inRange ']' '~' c || isBytePair c

/-- Whether a character may follow a backslash between quotes. -/
def isEscapable (c : Char) : Bool := inRange '!' '~' c

/-- Whether a character may stand in a domain between square brackets. -/
def isLiteralChar (c : Char) : Bool := inRange '!' 'Z' c || inRange '^' '~' c || isBytePair c

/-! ## Parts -/

def isAtom (cs : List Char) : Bool := !cs.isEmpty && cs.all isAtomChar

/-- Whether a text may stand between quotes. -/
def isQuotedContent : List Char → Bool
  | [] => true
  | ['\\'] => false
  | '\\' :: c :: rest => isEscapable c && isQuotedContent rest
  | c :: rest => isQuotable c && isQuotedContent rest

/-- What stands between the first and the last character of a text. -/
def inner (cs : List Char) : List Char := cs.tail.dropLast

/-- Whether a text starts with one character and ends with another. -/
def enclosed (first last : Char) (cs : List Char) : Bool :=
  cs.head? == some first && cs.getLast? == some last

/-- Turns a test into a check for bad characters. -/
def require (condition : Bool) : Except Fault Unit :=
  if condition then .ok () else .error .badCharacter

/-- Checks a local part: atoms with dots between them, or a quoted text. -/
def checkLocalPart (part : List Char) : Except Fault Unit :=
  if part.isEmpty then .error .emptyLocalPart
  else if maxLocalPart < Text.byteLength part then .error .longLocalPart
  else if enclosed '"' '"' part then
    if part.length ≤ 2 then .error .emptyLocalPart else require (isQuotedContent (inner part))
  else require ((Text.split '.' part).all isAtom)

def checkLabel (label : List Char) : Except Fault Unit :=
  match label.head?, label.getLast? with
  | some first, some last =>
    if !(Text.isAlphanumeric first && Text.isAlphanumeric last) then .error .badCharacter
    else if maxLabel < Text.byteLength label then .error .longLabel
    else require (isAtom label)
  | _, _ => .error .emptyLabel

/-- Checks a domain: labels with dots between them, or a text in square brackets. -/
def checkDomain (domain : List Char) : Except Fault Unit :=
  if domain.isEmpty then .error .emptyDomain
  else if maxDomain < Text.byteLength domain then .error .longDomain
  else if enclosed '[' ']' domain then require ((inner domain).all isLiteralChar)
  else (Text.split '.' domain).forM checkLabel

/-- What stands before and after the last blank that is followed by an angle bracket. -/
def splitDisplay : List Char → Option (List Char × List Char)
  | [] => none
  | c :: rest =>
    match splitDisplay rest with
    | some (before, after) => some (c :: before, after)
    | none => if c = ' ' ∧ rest.head? = some '<' then some ([], rest.tail) else none

/-- The display name, empty if there is none, and the address. -/
def parts (text : List Char) : Except Fault (List Char × List Char) :=
  match splitDisplay text with
  | none => .ok ([], text)
  | some (before, after) =>
    let address := Text.trim after
    if address.getLast? = some '>' then .ok (Text.trim before, address.dropLast)
    else .error .missingBracket

/-- Checks that a text is a mailbox. -/
def check (text : List Char) : Except Fault Unit := do
  let (display, address) ← parts text
  match Text.splitLast '@' address with
  | none => .error .missingSeparator
  | some (localPart, domain) =>
    if display.isEmpty && localPart.head? == some '<' then .error .missingDisplayName
    else
      checkLocalPart localPart
      checkDomain domain

end Mailbox

/-- A text that is a mailbox. The text is kept whole, a display name included. -/
structure Mailbox where
  text : String
  wellFormed : Mailbox.check text.toList = .ok ()

namespace Mailbox

@[ext] theorem ext {m n : Mailbox} (h : m.text = n.text) : m = n := by
  cases m; cases n; cases h; rfl

instance : DecidableEq Mailbox := fun m n =>
  decidable_of_iff (m.text = n.text) ⟨ext, fun h => h ▸ rfl⟩

def ofText (text : String) : Except Fault Mailbox :=
  match h : check text.toList with
  | .ok () => .ok ⟨text, h⟩
  | .error fault => .error fault

end Mailbox

end Accounts
