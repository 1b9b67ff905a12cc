/-!
# Values of a TOML document

`Value` : what a key can stand for. `Table` : keys with their values. `Table.insertDotted`, `Table.openHeader` and
`Table.openArrayHeader` are the three ways in which a document adds to its tables; each says which redefinitions it
refuses.
-/

namespace Custodian.Toml

set_option autoImplicit false

/-- How a table came to be. -/
inductive Origin where
  /-- Named on the way to a table with a header. -/
  | implicit
  /-- Named on the way to a key with dots. -/
  | dotted
  /-- It has a header of its own, or is the document. -/
  | header
  /-- Written between braces. -/
  | inline
deriving DecidableEq, Inhabited

/-- A value. The sizes of floating-point numbers and the readings of dates are not kept, as nothing needs them. -/
inductive Value where
  | text (s : String)
  | integer (n : Int)
  | float
  | boolean (b : Bool)
  | datetime
  | array (items : List Value)
  | table (origin : Origin) (entries : List (String × Value))
  /-- Tables with one header each. -/
  | tables (items : List (List (String × Value)))
deriving Inhabited

/-- Keys with their values, and how the table came to be. -/
structure Table where
  origin : Origin
  entries : List (String × Value)
deriving Inhabited

namespace Table

/-- The table of a document before its first line. -/
def root : Table := ⟨.header, []⟩

/-- The value of a key. -/
def get? (t : Table) (k : String) : Option Value := t.entries.lookup k

/-- The table with another value for a key; a new key goes to the end. -/
def set (t : Table) (k : String) (v : Value) : Table :=
  if (t.get? k).isSome then { t with entries := t.entries.map fun e => if e.1 = k then (k, v) else e }
  else { t with entries := t.entries ++ [(k, v)] }

/-- The table as a value. -/
def toValue (t : Table) : Value := .table t.origin t.entries

/-- Changes the table that a row of keys leads to. Missing tables are made on the way, and of several tables with the
same header the last one is meant. Keys with dots do not lead into tables that have a header. -/
def update (dotted : Bool) (f : Table → Option Table) : List String → Table → Option Table
  | [], t => f t
  | k :: ks, t =>
    match t.get? k with
    | none =>
      (update dotted f ks ⟨if dotted then .dotted else .implicit, []⟩).map fun u => t.set k u.toValue
    | some (.table o es) =>
      if o = .inline ∨ (dotted ∧ o = .header) then none
      else (update dotted f ks ⟨o, es⟩).map fun u => t.set k u.toValue
    | some (.tables items) =>
      match items.getLast? with
      | none => none
      | some es => (update dotted f ks ⟨.header, es⟩).map fun u => t.set k (.tables (items.dropLast ++ [u.entries]))
    | some _ => none

/-- Gives a key a value; a key cannot have two. -/
def insertNew (k : String) (v : Value) (t : Table) : Option Table :=
  if (t.get? k).isSome then none else some (t.set k v)

/-- Gives a key at the end of other keys a value. A key without dots belongs into a table that no dots have made, and
one with dots into one that they have. -/
def insertDotted (keys : List String) (k : String) (v : Value) (t : Table) : Option Table :=
  update true (fun u => if (u.origin = .dotted) = keys.isEmpty then none else insertNew k v u) keys t

/-- A header: its table is new, or only known as the way to others. -/
def openHeader (keys : List String) (k : String) (t : Table) : Option Table :=
  update false (fun u =>
    match u.get? k with
    | none => some (u.set k (.table .header []))
    | some (.table .implicit es) => some (u.set k (.table .header es))
    | some _ => none) keys t

/-- A header in double brackets adds a table to those with the same header. -/
def openArrayHeader (keys : List String) (k : String) (t : Table) : Option Table :=
  update false (fun u =>
    match u.get? k with
    | none => some (u.set k (.tables [[]]))
    | some (.tables items) => some (u.set k (.tables (items ++ [[]])))
    | some _ => none) keys t

end Table

end Custodian.Toml
