/-!
# Blank characters

The characters that Unicode counts as white space, and a text without those at its ends.
-/

namespace Accounts.Text

/-- Whether a character is white space. -/
def isBlank (c : Char) : Bool :=
  let n := c.toNat
  (9 ≤ n && n ≤ 13) || n == 0x20 || n == 0x85 || n == 0xa0 || n == 0x1680 ||
    (0x2000 ≤ n && n ≤ 0x200a) || n == 0x2028 || n == 0x2029 || n == 0x202f || n == 0x205f ||
    n == 0x3000

/-- The characters without the blank ones at the front. -/
def trimLeft (cs : List Char) : List Char := cs.dropWhile isBlank

/-- The characters without the blank ones at the end. -/
def trimRight (cs : List Char) : List Char := (cs.reverse.dropWhile isBlank).reverse

/-- The characters without the blank ones at either end. -/
def trim (cs : List Char) : List Char := trimRight (trimLeft cs)

/-- Whether all characters of a text are blank. -/
def isBlankText (text : String) : Bool := text.toList.all isBlank

end Accounts.Text
