/-!
# Text as bytes

The UTF-8 bytes of a text, and the text of bytes that are UTF-8.
-/

namespace Accounts.Utf8

/-- The bytes of a text. -/
def encode (text : String) : List UInt8 := text.toUTF8.data.toList

/-- The text with these bytes, if they are UTF-8. -/
def decode? (bytes : List UInt8) : Option String := String.fromUTF8? ⟨bytes.toArray⟩

end Accounts.Utf8
