/-!
# Blanks

The characters that count as white space, here and in the forms that allow it.
-/

namespace BrowserTelemetry.Text

set_option autoImplicit false

/-- Is the character white space? -/
def isBlank (c : Char) : Bool :=
  let n := c.toNat
  (0x09 ≤ n && n ≤ 0x0d) || n = 0x20 || n = 0x85 || n = 0xa0 || n = 0x1680 ||
    (0x2000 ≤ n && n ≤ 0x200a) || n = 0x2028 || n = 0x2029 || n = 0x202f || n = 0x205f || n = 0x3000

/-- Does a text hold nothing but blanks? -/
def allBlank (s : String) : Bool := s.toList.all isBlank

/-- The text without its leading blanks. -/
def dropBlanks (cs : List Char) : List Char := cs.dropWhile isBlank

end BrowserTelemetry.Text
