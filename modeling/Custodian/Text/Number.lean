/-!
# Numbers in text

`readNat` : a number written as an optional plus sign and decimal digits, below a bound.
-/

namespace Custodian.Text

set_option autoImplicit false

/-- The value of decimal digits read from the left, continuing from `acc`; `none` at any other character. -/
def digitsValue (acc : Nat) : List Char → Option Nat
  | [] => some acc
  | c :: cs => if c.isDigit then digitsValue (10 * acc + (c.toNat - 48)) cs else none

/-- The value of one or more decimal digits. -/
def readDigits : List Char → Option Nat
  | [] => none
  | cs => digitsValue 0 cs

/-- The digits after an optional plus sign. -/
def unsigned : List Char → List Char
  | '+' :: cs => cs
  | cs => cs

/-- The number below `bound` that the text writes with an optional plus sign and decimal digits. -/
def readNat (bound : Nat) (s : String) : Option Nat :=
  (readDigits (unsigned s.toList)).filter (· < bound)

end Custodian.Text
