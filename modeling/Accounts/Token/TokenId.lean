import Accounts.Text.Split

/-!
# Identifiers of tokens

A random UUID: sixteen random bytes in which the version 4 and the variant of RFC 9562 are set.
-/

namespace Accounts.Token

/-- Sixteen random bytes for an identifier. -/
structure TokenId where
  bytes : List UInt8
  length_bytes : bytes.length = 16

namespace TokenId

/-- The bytes with version and variant set. -/
def marked (id : TokenId) : List UInt8 :=
  id.bytes.mapIdx fun i b =>
    if i = 6 then (b &&& 0x0f) ||| 0x40
    else if i = 8 then (b &&& 0x3f) ||| 0x80
    else b

/-- Two lower-case hexadecimal digits. -/
def hexByte (b : UInt8) : List Char :=
  [Nat.digitChar (b.toNat / 16), Nat.digitChar (b.toNat % 16)]

/-- The text of an identifier: groups of 8, 4, 4, 4 and 12 digits. -/
def text (id : TokenId) : String :=
  let hex := fun (from_ count : Nat) => ((id.marked.drop from_).take count).flatMap hexByte
  String.ofList (hex 0 4 ++ '-' :: hex 4 2 ++ '-' :: hex 6 2 ++ '-' :: hex 8 2 ++ '-' :: hex 10 6)

/-- Whether characters are a number of lower-case hexadecimal digits. -/
def isHex (count : Nat) (cs : List Char) : Bool :=
  cs.length == count && cs.all fun c => c.isDigit || ('a' ≤ c && c ≤ 'f')

/-- Whether a text has the form of an identifier. -/
def isText (text : String) : Bool :=
  match Text.split '-' text.toList with
  | [a, b, c, d, e] =>
    isHex 8 a && isHex 4 b && isHex 4 c && isHex 4 d && isHex 12 e && c.head? == some '4' &&
      ['8', '9', 'a', 'b'].contains (d.headD ' ')
  | _ => false

end TokenId

end Accounts.Token
