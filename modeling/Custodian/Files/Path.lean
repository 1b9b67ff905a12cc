/-!
# Paths

A path is a text whose pieces stand between slashes. `components` are its meaningful pieces, `parent?` and `fileName?`
what stands before the last of them and that one itself, `join` one path below another.
-/

namespace Custodian.Path

set_option autoImplicit false

/-! ## Pieces -/

/-- The pieces of a row of characters between slashes; there is always at least one. -/
def charPieces (cs : List Char) : List (List Char) := cs.splitOn '/'

/-- Puts pieces together again. -/
def joinPieces (ps : List (List Char)) : List Char := ['/'].intercalate ps

theorem charPieces_ne_nil (cs : List Char) : charPieces cs ≠ [] := List.splitOnP_ne_nil _ _

/-- The pieces of a path. -/
def pieces (path : String) : List String := (charPieces path.toList).map String.ofList

/-- Whether a path starts at the root. -/
def isAbsolute (path : String) : Bool := path.toList.head? = some '/'

/-! ## Components -/

/-- A meaningful piece of a path. -/
inductive Component where
  | root
  | here
  | up
  | plain (name : String)
deriving DecidableEq, Inhabited

/-- Whether a component leads neither upwards nor to the root. -/
def Component.isInward : Component → Bool
  | .here | .plain _ => true
  | .root | .up => false

/-- The component that a piece after the first is; empty pieces and single dots are none. -/
def component? (piece : String) : Option Component :=
  if piece = "" ∨ piece = "." then none
  else if piece = ".." then some .up
  else some (.plain piece)

/-- The component that the first piece is: empty before a leading slash, and a single dot counts here. -/
def firstComponent? (absolute : Bool) (piece : String) : Option Component :=
  if absolute then some .root else if piece = "." then some .here else component? piece

/-- The components of a path. -/
def components (path : String) : List Component :=
  match pieces path with
  | [] => []
  | p :: ps => (firstComponent? (isAbsolute path) p).toList ++ ps.filterMap component?

/-- The piece in front, and the others up to the last meaningful one. -/
def significant (path : String) : List String :=
  match pieces path with
  | [] => []
  | p :: ps =>
    let rest := (ps.reverse.dropWhile fun q => (component? q).isNone).reverse
    if rest.isEmpty ∧ (firstComponent? (isAbsolute path) p).isNone then [] else p :: rest

/-- The text of pieces; the empty piece alone is the root. -/
def ofPieces (ps : List String) : String :=
  if ps = [""] then "/" else String.ofList (joinPieces (ps.map String.toList))

/-- The path without its last component, as it is written; none for the root and the empty path. -/
def parent? (path : String) : Option String :=
  match components path with
  | [] | [.root] => none
  | _ => some <|
    match significant path with
    | [] => ""
    | p :: ps =>
      if ps.isEmpty then ""
      else ofPieces (p :: (ps.dropLast.reverse.dropWhile fun q => (component? q).isNone).reverse)

/-- The name that a path ends in. -/
def fileName? (path : String) : Option String :=
  match (components path).getLast? with
  | some (.plain n) => some n
  | _ => none

/-- The path `rest` seen from `dir`; an absolute `rest` stays as it is. -/
def join (dir rest : String) : String :=
  if isAbsolute rest then rest
  else if dir = "" ∨ dir.toList.getLast? = some '/' then dir ++ rest
  else dir ++ "/" ++ rest

end Custodian.Path
