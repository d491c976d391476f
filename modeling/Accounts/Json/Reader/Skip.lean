import Accounts.Json.Reader.Number
import Accounts.Json.Reader.Text

/-!
# Skipping JSON values

A value nobody asked for has to be JSON all the same, but its texts may hold unpaired surrogates and
bytes that are not UTF-8, its numbers may have any size and its brackets any depth.
-/

namespace Accounts.Json

namespace Reader

/-- Skips a text up to and including its closing quote. Escapes are recognised but surrogates need
not be paired, and the bytes need not be UTF-8. The first argument bounds the characters. -/
def skipText : Nat → Reader Unit
  | 0, input => failHere .endInString input
  | fuel + 1, input =>
    match input with
    | [] => failHere .endInString []
    | b :: rest =>
      if b == byte '"' then .ok () rest
      else if b == byte '\\' then
        match rest with
        | [] => failHere .endInString []
        | e :: rest =>
          if e == byte 'u' then (hexUnit >>= fun _ => skipText fuel) rest
          else if (simpleEscape? e).isSome then skipText fuel rest
          else failHere .badEscape rest
      else if b < 0x20 then failHere .controlCharacter rest
      else skipText fuel rest

/-- Skips an exponent, the letter being next. -/
def skipExponent : Reader Unit := do
  advance
  let _ ← exponentSign
  let _ ← exponentDigit .badNumber
  ignoredDigits

/-- Skips an exponent if there is one. -/
def skipOptionalExponent : Reader Unit := fun input =>
  match input with
  | b :: _ => if b == byte 'e' || b == byte 'E' then skipExponent input else .ok () input
  | [] => .ok () []

/-- Skips the places after a point and an exponent, as far as there are any. -/
def skipFraction : Reader Unit := fun input =>
  match input with
  | p :: places =>
    if p == byte '.' then
      let (count, rest) := skippedDigits places 0
      if count == 0 then failNext .badNumber rest else skipOptionalExponent rest
    else skipOptionalExponent input
  | [] => .ok () []

/-- Skips a number without its sign. Its size does not matter. -/
def skipMagnitude : Reader Unit := fun input =>
  match input with
  | [] => failHere .badNumber []
  | b :: rest =>
    match digit? b with
    | none => failHere .badNumber rest
    | some d =>
      if d == 0 && startsWithDigit rest then failNext .badNumber rest
      else skipFraction (if d == 0 then rest else (skippedDigits rest 0).2)

/-- The two kinds of brackets. -/
inductive Bracket where
  | list
  | object
deriving DecidableEq, Repr

/-- The byte that closes a bracket. -/
def Bracket.closing : Bracket → UInt8
  | list => byte ']'
  | object => byte '\x7d'

/-- The fault of a text that ends inside a bracket. -/
def Bracket.unclosed : Bracket → SyntaxFault
  | list => .endInList
  | object => .endInObject

/-- The fault of a bracket in which two members are not separated. -/
def Bracket.unseparated : Bracket → SyntaxFault
  | list => .wantsListSeparator
  | object => .wantsObjectSeparator

def colon : Reader Unit := do
  match ← peek with
  | some b => if b == byte ':' then advance else failNext .wantsColon
  | none => failNext .endInObject

/-- Skips a key and its colon. -/
def skipKey : Reader Unit := do
  match ← peek with
  | none => failNext .endInObject
  | some b =>
    if b == byte '"' then do
      advance
      (fun input => skipText (input.length + 1) input)
      colon
    else failNext .wantsKey

/-- What a reader that skips wants next. -/
inductive Want where
  /-- A value. -/
  | value
  /-- The first member of the innermost bracket, or its end. -/
  | opening
  /-- A further member of the innermost bracket, or its end. -/
  | following

/-- Skips until all open brackets, innermost first, are closed. The first argument bounds the number
of tokens. -/
def skipUntilClosed : Nat → Want → List Bracket → Reader Unit
  | 0, _, _, input => failNext .endInValue input
  | _ + 1, .opening, [], input => .ok () input
  | _ + 1, .following, [], input => .ok () input
  | fuel + 1, .value, open_, input =>
    let rest := input.dropWhile isSpace
    match rest with
    | [] => failNext .endInValue []
    | b :: after =>
      if b == byte '[' then skipUntilClosed fuel .opening (.list :: open_) after
      else if b == byte '\x7b' then skipUntilClosed fuel .opening (.object :: open_) after
      else (scalar b >>= fun _ => skipUntilClosed fuel .following open_) rest
  | fuel + 1, .opening, bracket :: open_, input =>
    let rest := input.dropWhile isSpace
    match rest with
    | [] => failNext bracket.unclosed []
    | b :: after =>
      if b == bracket.closing then skipUntilClosed fuel .following open_ after
      else (member bracket >>= fun _ => skipUntilClosed fuel .value (bracket :: open_)) rest
  | fuel + 1, .following, bracket :: open_, input =>
    let rest := input.dropWhile isSpace
    match rest with
    | [] => failNext bracket.unclosed []
    | b :: after =>
      if b == byte ',' then
        (member bracket >>= fun _ => skipUntilClosed fuel .value (bracket :: open_)) after
      else if b == bracket.closing then skipUntilClosed fuel .following open_ after
      else failNext bracket.unseparated rest
where
  /-- Skips a value that has no brackets. -/
  scalar (b : UInt8) : Reader Unit :=
    if b == byte 'n' then nullWord
    else if b == byte 't' then trueWord
    else if b == byte 'f' then falseWord
    else if b == byte '-' then do advance; skipMagnitude
    else if (digit? b).isSome then skipMagnitude
    else if b == byte '"' then do
      advance
      fun input => skipText (input.length + 1) input
    else failNext .wantsValue
  /-- Skips what stands before the value of a member. -/
  member : Bracket → Reader Unit
    | .list => pure ()
    | .object => skipKey

/-- Skips a value of any form. -/
def skip : Reader Unit := fun input => skipUntilClosed (2 * input.length + 2) .value [] input

end Reader

end Accounts.Json
