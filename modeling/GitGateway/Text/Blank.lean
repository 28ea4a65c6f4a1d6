/-!
# Blank text

Blank characters are those with the Unicode property White_Space; zero-width
spaces and the byte order mark are not among them.
-/

namespace GitGateway

/-- Whether a character has the property White_Space. -/
def isBlank (c : Char) : Bool :=
  let code := c.toNat
  (0x9 ≤ code && code ≤ 0xD) || code == 0x20 || code == 0x85 || code == 0xA0 ||
    code == 0x1680 || (0x2000 ≤ code && code ≤ 0x200A) || code == 0x2028 || code == 0x2029 ||
    code == 0x202F || code == 0x205F || code == 0x3000

/-- Whether a text has nothing but blank characters. -/
def isBlankText (text : String) : Bool :=
  text.toList.all isBlank

/-- The characters without the blank ones at either end. -/
def trimBlank (chars : List Char) : List Char :=
  ((chars.dropWhile isBlank).reverse.dropWhile isBlank).reverse

end GitGateway
