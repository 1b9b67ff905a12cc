import Custodian.Toml.Scalar

/-!
# TOML documents

`parse?` : the table that a text describes, or nothing if it is no TOML document.
-/

namespace Custodian.Toml

set_option autoImplicit false

/-- Skips a comment, if one stands here. -/
def skipComment (cs : List Char) : List Char :=
  match cs with
  | '#' :: r => r.dropWhile isPlain
  | _ => cs

/-- Skips blanks, comments and line breaks; `inComment` tells that a comment goes on. -/
def skipLines (inComment : Bool) : List Char → List Char
  | [] => []
  | '\n' :: r => skipLines false r
  | '\r' :: '\n' :: r => skipLines false r
  | c :: r =>
    if inComment then if isPlain c then skipLines true r else c :: r
    else if isBlankChar c then skipLines false r
    else if c = '#' then skipLines true r
    else c :: r

/-- The end of a line: blanks, a comment, and a line break or the end of the text. -/
def endOfLine? (cs : List Char) : Option (List Char) :=
  match skipComment (skipBlank cs) with
  | [] => some []
  | r => lineBreak? r

/-! ## Arrays and inline tables -/

mutual

/-- A value; `depth` arrays and tables are open around it, and `fuel` bounds the steps. -/
def value? : Nat → Nat → List Char → Parsed Value
  | 0, _, _ => none
  | fuel + 1, depth, cs =>
    match cs with
    | '[' :: r =>
      if depth + 1 < nestingLimit then (items? fuel (depth + 1) r).map fun p => (.array p.1, p.2) else none
    | '{' :: r =>
      if depth + 1 < nestingLimit then
        match skipBlank r with
        | '}' :: r => some (.table .inline [], r)
        | r => (entries? fuel (depth + 1) ⟨.inline, []⟩ r).map fun p => (.table .inline p.1.entries, p.2)
      else none
    | cs => scalar? cs

/-- The items of an array up to its closing bracket; a comma may follow the last. -/
def items? : Nat → Nat → List Char → Parsed (List Value)
  | 0, _, _ => none
  | fuel + 1, depth, cs =>
    match skipLines false cs with
    | ']' :: r => some ([], r)
    | r =>
      match value? fuel depth r with
      | none => none
      | some (v, r) =>
        match skipLines false r with
        | ',' :: r => (items? fuel depth r).map fun p => (v :: p.1, p.2)
        | ']' :: r => some ([v], r)
        | _ => none

/-- The entries of an inline table up to its closing brace; it stands on one line, and no comma follows the last. -/
def entries? : Nat → Nat → Table → List Char → Parsed Table
  | 0, _, _, _ => none
  | fuel + 1, depth, t, cs =>
    match entry? fuel depth t cs with
    | none => none
    | some (t, r) =>
      match skipBlank r with
      | ',' :: r => entries? fuel depth t r
      | '}' :: r => some (t, r)
      | _ => none

/-- A key with its value, put into a table. -/
def entry? : Nat → Nat → Table → List Char → Parsed Table
  | 0, _, _, _ => none
  | fuel + 1, depth, t, cs =>
    match keys? nestingLimit cs with
    | none => none
    | some (ks, r) =>
      if nestingLimit ≤ ks.length then none
      else
        match skipBlank r with
        | '=' :: r =>
          match value? fuel depth (skipBlank r) with
          | none => none
          | some (v, r) => (t.insertDotted ks.dropLast (ks.getLastD "") v).map (·, r)
        | _ => none

end

/-! ## Lines -/

/-- A document so far: its table, and the keys of the header above the current line. -/
structure Draft where
  table : Table := .root
  header : List String := []
deriving Inhabited

/-- A header between brackets of which `closing` are to come. -/
def header? (closing cs : List Char) : Option (List String × List Char) := do
  let (ks, r) ← keys? nestingLimit cs
  if nestingLimit ≤ ks.length then none
  let r := skipBlank r
  if r.take closing.length = closing then some (ks, r.drop closing.length) else none

/-- A line that is not empty. The value of a key goes into the table of the header above. `fuel` bounds the number of
characters. -/
def line? (fuel : Nat) (d : Draft) (cs : List Char) : Option (Draft × List Char) :=
  match cs with
  | '[' :: '[' :: r => do
    let (ks, r) ← header? [']', ']'] r
    let t ← d.table.openArrayHeader ks.dropLast (ks.getLastD "")
    some (⟨t, ks⟩, r)
  | '[' :: r => do
    let (ks, r) ← header? [']'] r
    let t ← d.table.openHeader ks.dropLast (ks.getLastD "")
    some (⟨t, ks⟩, r)
  | cs => do
    let (ks, r) ← keys? nestingLimit cs
    if nestingLimit ≤ ks.length then none
    match skipBlank r with
    | '=' :: r =>
      let (v, r) ← value? (2 * fuel + 2) 0 (skipBlank r)
      let t ← d.table.update false (Table.insertDotted ks.dropLast (ks.getLastD "") v) d.header
      some (⟨t, d.header⟩, r)
    | _ => none

/-- The lines of a document; `fuel` bounds their number and that of their characters. -/
def lines? : Nat → Draft → List Char → Option Draft
  | 0, _, _ => none
  | fuel + 1, d, cs =>
    match skipBlank cs with
    | [] => some d
    | c :: r =>
      if c = '#' ∨ (lineBreak? (c :: r)).isSome then (endOfLine? (c :: r)).bind (lines? fuel d)
      else
        match line? fuel d (c :: r) with
        | none => none
        | some (d, r) => (endOfLine? r).bind (lines? fuel d)

/-- A text without the mark that may stand at its start. -/
def skipMark (cs : List Char) : List Char :=
  match cs with
  | '\ufeff' :: r => r
  | cs => cs

/-- The table that a text describes. -/
def parse? (text : String) : Option Table :=
  let cs := skipMark text.toList
  (lines? (cs.length + 1) {} cs).map (·.table)

end Custodian.Toml
