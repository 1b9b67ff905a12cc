/-!
# Ranges of characters

`inRanges` : membership of a code point in a sorted table of closed ranges, by bisection.
-/

namespace Custodian.Text

set_option autoImplicit false

/-- Searches the entries `lo`, …, `hi - 1` for a range that holds `n`. -/
def searchRanges (table : Array (Nat × Nat)) (n lo hi : Nat) : Bool :=
  if lo < hi then
    let mid := (lo + hi) / 2
    match table[mid]? with
    | none => false
    | some (a, b) =>
      if n < a then searchRanges table n lo mid
      else if b < n then searchRanges table n (mid + 1) hi
      else true
  else false
termination_by hi - lo

/-- Whether `n` lies in one of the ranges of a sorted table. -/
def inRanges (table : Array (Nat × Nat)) (n : Nat) : Bool :=
  searchRanges table n 0 table.size

end Custodian.Text
