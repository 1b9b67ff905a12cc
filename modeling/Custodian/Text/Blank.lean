/-!
# Blank text

`isSpace` : the white space of Unicode. `trim` : a text without white space at both ends. `isBlank` : a text of white
space alone.
-/

namespace Custodian.Text

set_option autoImplicit false

/-- The white space characters of Unicode. -/
def isSpace (c : Char) : Bool :=
  let n := c.toNat
  (9 ≤ n && n ≤ 13) || n == 0x20 || n == 0x85 || n == 0xA0 || n == 0x1680 || (0x2000 ≤ n && n ≤ 0x200A) ||
    n == 0x2028 || n == 0x2029 || n == 0x202F || n == 0x205F || n == 0x3000

/-- The characters without white space at their end. -/
def dropSpaceEnd (cs : List Char) : List Char := (cs.reverse.dropWhile isSpace).reverse

/-- The characters without white space at both ends. -/
def trimChars (cs : List Char) : List Char := dropSpaceEnd (cs.dropWhile isSpace)

/-- The text without white space at both ends. -/
def trim (s : String) : String := String.ofList (trimChars s.toList)

/-- Whether a text has no character but white space. -/
def isBlank (s : String) : Bool := s.toList.all isSpace

end Custodian.Text
