import Custodian.Toml.Value

/-!
# Reading values as records

`fields?` : a value as the fields of a record. A table gives fields by name and an array gives them by position; a date
is a record about which nothing is said. Fields that a record does not have are passed over.
-/

namespace Custodian.Toml

set_option autoImplicit false

/-- The fields of a record as they are given. -/
inductive Fields where
  | named (entries : List (String × Value))
  | inOrder (items : List Value)
deriving Inhabited

/-- A value as the fields of a record. -/
def fields? : Value → Option Fields
  | .table _ entries => some (.named entries)
  | .datetime => some (.named [])
  | .array items => some (.inOrder items)
  | .tables items => some (.inOrder (items.map (.table .header)))
  | _ => none

/-- The items of an array. -/
def list? : Value → Option (List Value)
  | .array items => some items
  | .tables items => some (items.map (.table .header))
  | _ => none

/-- A text. -/
def text? : Value → Option String
  | .text s => some s
  | _ => none

/-- A number from zero on and below a bound. -/
def nat? (bound : Nat) : Value → Option Nat
  | .integer n => if 0 ≤ n ∧ n < bound then some n.toNat else none
  | _ => none

namespace Fields

/-- What is given for the field at a position and with a name. -/
def get? (f : Fields) (index : Nat) (name : String) : Option Value :=
  match f with
  | .named entries => entries.lookup name
  | .inOrder items => items[index]?

variable {α : Type}

/-- Reads a field that has a default. -/
def optional (f : Fields) (index : Nat) (name : String) (read : Value → Option α) (default : α) : Option α :=
  match f.get? index name with
  | none => some default
  | some v => read v

/-- Reads a field that has to be there. -/
def required (f : Fields) (index : Nat) (name : String) (read : Value → Option α) : Option α :=
  (f.get? index name).bind read

end Fields

end Custodian.Toml
