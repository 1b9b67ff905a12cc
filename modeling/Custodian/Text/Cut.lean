/-!
# Cuts of text

`dropBytes` and `takeBytes` : what stands after and before a number of bytes, if a character ends there. `slice` : what
stands between two such places.
-/

namespace Custodian.Text

set_option autoImplicit false

/-- What is left after the first `n` bytes, if a character ends there. -/
def dropBytes : Nat → List Char → Option (List Char)
  | 0, cs => some cs
  | _ + 1, [] => none
  | n + 1, c :: cs => if c.utf8Size ≤ n + 1 then dropBytes (n + 1 - c.utf8Size) cs else none

/-- The first `n` bytes, if a character ends there. -/
def takeBytes : Nat → List Char → Option (List Char)
  | 0, _ => some []
  | _ + 1, [] => none
  | n + 1, c :: cs => if c.utf8Size ≤ n + 1 then (takeBytes (n + 1 - c.utf8Size) cs).map (c :: ·) else none

/-- What stands from byte `i` to before byte `j`, if characters end there. -/
def slice (cs : List Char) (i j : Nat) : Option (List Char) := (dropBytes i cs).bind (takeBytes (j - i))

end Custodian.Text
