import Accounts.Number.Binary64
import Accounts.Text.Quoted

/-!
# What can be wrong with JSON

Two kinds of fault: the text is not JSON, or the value is not of the wanted form. A fault found in a
text carries the place where it was found, as the number of bytes left there; the place is written
as a line and a column, columns counting bytes.
-/

namespace Accounts.Json

/-- Ways in which a text fails to be JSON. -/
inductive SyntaxFault where
  | endInValue
  | endInList
  | endInObject
  | endInString
  | wantsValue
  | wantsWord
  | wantsColon
  | wantsListSeparator
  | wantsObjectSeparator
  | wantsKey
  | badEscape
  | badNumber
  | hugeNumber
  | badUnicode
  | controlCharacter
  | loneSurrogate
  | unfinishedSurrogate
  | trailingComma
  | trailingCharacters
  | tooDeep
deriving DecidableEq, Repr

namespace SyntaxFault

def message : SyntaxFault → String
  | endInValue => "EOF while parsing a value"
  | endInList => "EOF while parsing a list"
  | endInObject => "EOF while parsing an object"
  | endInString => "EOF while parsing a string"
  | wantsValue => "expected value"
  | wantsWord => "expected ident"
  | wantsColon => "expected `:`"
  | wantsListSeparator => "expected `,` or `]`"
  | wantsObjectSeparator => "expected `,` or `\x7d`"
  | wantsKey => "key must be a string"
  | badEscape => "invalid escape"
  | badNumber => "invalid number"
  | hugeNumber => "number out of range"
  | badUnicode => "invalid unicode code point"
  | controlCharacter => "control character (\\u0000-\\u001F) found while parsing a string"
  | loneSurrogate => "lone leading surrogate in hex escape"
  | unfinishedSurrogate => "unexpected end of hex escape"
  | trailingComma => "trailing comma"
  | trailingCharacters => "trailing characters"
  | tooDeep => "recursion limit exceeded"

end SyntaxFault

/-- What was met where something else was wanted. -/
inductive Found where
  | null
  | bool (value : Bool)
  | natural (value : Nat)
  | negative (value : Int)
  | float (value : Binary64)
  /-- A float that is written without an exponent. -/
  | decimal (value : Binary64)
  | text (value : String)
  | unit
  | sequence
  | map

/-- The exponent of a decimal with a sign and at least two digits. -/
def exponentText (exponent : Int) : String :=
  let digits := toString exponent.natAbs
  (if exponent < 0 then "-" else "+") ++ (if digits.length < 2 then "0" ++ digits else digits)

/-- The text of a finite number with a point or an exponent: positional if the first digit stands
for `10 ^ -5` to `10 ^ 15`. -/
def floatText : Binary64 → String
  | .finite s m e =>
    let d := Binary64.shortest m e
    let digits := Binary64.digitText d.digits
    let leading : Int := d.exponent + digits.length - 1
    let sign := if s then "-" else ""
    if -5 ≤ leading ∧ leading < 16 then
      sign ++ Binary64.positional d ++ (if d.exponent < 0 then "" else ".0")
    else
      sign ++ String.ofList (digits.take 1) ++
        (if digits.length == 1 then "" else "." ++ String.ofList (digits.drop 1)) ++
        "e" ++ exponentText leading
  | x => x.display

/-- The text of a number in positional notation; a finite number has a point. -/
def decimalText (x : Binary64) : String :=
  let text := x.display
  match x with
  | .finite _ _ _ => if text.toList.contains '.' then text else text ++ ".0"
  | _ => text

namespace Found

def describe : Found → String
  | null => "null"
  | bool value => "boolean `" ++ (if value then "true" else "false") ++ "`"
  | natural value => "integer `" ++ toString value ++ "`"
  | negative value => "integer `" ++ toString value ++ "`"
  | float value => "floating point `" ++ floatText value ++ "`"
  | decimal value => "floating point `" ++ decimalText value ++ "`"
  | text value => "string " ++ Text.quoted value
  | unit => "unit value"
  | sequence => "sequence"
  | map => "map"

end Found

/-- Ways in which a JSON value is not of the wanted form. -/
inductive FormFault where
  /-- A value of another kind. -/
  | wrongKind (found : Found) (wanted : String)
  /-- A value of the right kind that is out of range. -/
  | outOfRange (found : Found) (wanted : String)
  /-- A list of the wrong length. -/
  | wrongLength (length : Nat) (wanted : String)
  | unknownVariant (name : String) (known : List String)
  | missingField (name : String)
  | duplicateField (name : String)
  /-- No alternative of a choice fits. -/
  | noAlternative (choice : String)

namespace FormFault

def message : FormFault → String
  | wrongKind found wanted => "invalid type: " ++ found.describe ++ ", expected " ++ wanted
  | outOfRange found wanted => "invalid value: " ++ found.describe ++ ", expected " ++ wanted
  | wrongLength length wanted => "invalid length " ++ toString length ++ ", expected " ++ wanted
  | unknownVariant name known =>
    "unknown variant `" ++ name ++ "`, expected one of " ++
      ", ".intercalate (known.map fun k => "`" ++ k ++ "`")
  | missingField name => "missing field `" ++ name ++ "`"
  | duplicateField name => "duplicate field `" ++ name ++ "`"
  | noAlternative choice => "data did not match any variant of untagged enum " ++ choice

end FormFault

/-- What is wrong: the text or the form. -/
inductive Cause where
  | syntactic (fault : SyntaxFault)
  | form (fault : FormFault)

def Cause.message : Cause → String
  | syntactic fault => fault.message
  | form fault => fault.message

/-- A fault found while reading a text. -/
structure Fault where
  cause : Cause
  /-- The number of bytes left at the place of the fault, once it has been located. -/
  left : Option Nat := none
  /-- The field of the outermost record in which the fault lies. -/
  field : Option String := none

/-- A place in a text: lines count from one; the column is the number of bytes since the start of
the line. -/
structure Place where
  line : Nat
  column : Nat
deriving DecidableEq, Repr

/-- The place before which the given bytes stand. -/
def Place.after (consumed : List UInt8) : Place where
  line := consumed.count '\n'.toUInt8 + 1
  column := (consumed.reverse.takeWhile (· != '\n'.toUInt8)).length

/-- The wording of a fault found in `text`. -/
def Fault.message (text : List UInt8) (fault : Fault) : String :=
  match fault.left with
  | none => fault.cause.message
  | some left =>
    let place := Place.after (text.take (text.length - left))
    fault.cause.message ++ " at line " ++ toString place.line ++ " column " ++
      toString place.column

end Accounts.Json
