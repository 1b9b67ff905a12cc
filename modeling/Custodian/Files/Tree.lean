import Custodian.Bytes
import Custodian.Files.Fault
import Custodian.Files.Path

/-!
# File trees

`Tree` : files and directories by their place below the root, with a working directory. `readFile`, `createFile`,
`removeFile` and `makeDirs` are the operations, with the faults that a system gives.
-/

namespace Custodian

set_option autoImplicit false

/-- A place: the names on the way to it from the root, the last first. Their number stands before them, so that places
are soon told apart. -/
structure Place where
  depth : Nat
  names : List String
  length_names : names.length = depth
deriving DecidableEq

namespace Place

/-- The place that names lead to, the last first. -/
def ofNames (names : List String) : Place := ⟨names.length, names, rfl⟩

/-- Where all ways begin. -/
def root : Place := ofNames []

instance : Inhabited Place := ⟨root⟩

/-- The place of a name below a place. -/
def child (p : Place) (name : String) : Place := ⟨p.depth + 1, name :: p.names, by simp [p.length_names]⟩

/-- The place above; above the root there is none but itself. -/
def parent (p : Place) : Place := ⟨p.depth - 1, p.names.tail, by simp [p.length_names]⟩

end Place

/-- What stands at a place. -/
inductive Entry where
  | dir
  | file (content : ByteArray)
deriving DecidableEq, Inhabited

/-- Files and directories by place, and the directory that relative paths start from. The root is always there. -/
structure Tree where
  entries : List (Place × Entry)
  work : Place
deriving Inhabited

namespace Tree

/-- The places on the way that names describe, the root left out. -/
def onTheWay : List String → List Place
  | [] => []
  | n :: ns => .ofNames (n :: ns) :: onTheWay ns

/-- The tree with no files, whose working directory is empty. -/
def ofWork (work : Place) : Tree := ⟨(onTheWay work.names).map (·, .dir), work⟩

/-- What stands at a place. -/
def entry? (t : Tree) (p : Place) : Option Entry := if p.depth = 0 then some .dir else t.entries.lookup p

/-- Puts an entry at a place. -/
def put (t : Tree) (p : Place) (e : Entry) : Tree :=
  { t with entries := (p, e) :: t.entries.filter (·.1 ≠ p) }

/-- Leaves nothing at a place. -/
def erase (t : Tree) (p : Place) : Tree := { t with entries := t.entries.filter (·.1 ≠ p) }

/-! ## Finding -/

/-- The longest name, in bytes. -/
def maxName : Nat := 255

/-- One byte more than the longest path. -/
def maxPath : Nat := 4096

/-- Faults of a path whatever the tree holds. -/
def checkPath (path : String) : Except Fault Unit :=
  if path.toList.contains '\x00' then .error .zeroByte
  else if path = "" then .error .notFound
  else if maxPath ≤ path.utf8ByteSize then .error .nameTooLong
  else .ok ()

/-- Follows pieces of a path from a place. Every piece, an empty one too, needs a directory to stand in. -/
def walk (t : Tree) : Place → List String → Except Fault Place
  | p, [] => .ok p
  | p, n :: ns =>
    match t.entry? p with
    | some .dir =>
      if n = "" ∨ n = "." then t.walk p ns
      else if n = ".." then t.walk p.parent ns
      else if maxName < n.utf8ByteSize then .error .nameTooLong
      else if (t.entry? (p.child n)).isSome then t.walk (p.child n) ns
      else .error .notFound
    | some (.file _) => .error .notADirectory
    | none => .error .notFound

/-- Where a path starts and the pieces to follow from there. -/
def start (t : Tree) (path : String) : Place × List String :=
  if Path.isAbsolute path then (.root, (Path.pieces path).tail) else (t.work, Path.pieces path)

/-- The place and entry that a path leads to. -/
def find (t : Tree) (path : String) : Except Fault (Place × Entry) := do
  checkPath path
  let (p, ns) := t.start path
  let p ← t.walk p ns
  match t.entry? p with
  | some e => .ok (p, e)
  | none => .error .notFound

/-- The end of a path: the directory it stands in, its name unless that is a dot, two dots or the root, and whether a
slash follows. -/
structure Target where
  dir : Place
  name? : Option String
  slash : Bool
deriving Inhabited

/-- Follows a path up to its last piece. -/
def target (t : Tree) (path : String) : Except Fault Target := do
  checkPath path
  let (p, ns) := t.start path
  let ended := ns.reverse.dropWhile (· = "")
  match ended with
  | [] => .ok ⟨p, none, true⟩
  | n :: before =>
    let dir ← t.walk p (before.reverse ++ [""])
    .ok ⟨dir, if n = "." ∨ n = ".." then none else some n, ended.length < ns.length⟩

/-- What has a name in a directory. -/
def child (t : Tree) (dir : Place) (name : String) : Except Fault (Option Entry) :=
  if maxName < name.utf8ByteSize then .error .nameTooLong else .ok (t.entry? (dir.child name))

/-! ## Operations -/

/-- Opens a file for reading; a directory can be opened but not read. -/
def openRead (t : Tree) (path : String) : Except Fault Entry := (t.find path).map (·.2)

/-- The bytes of a file. -/
def readFile (t : Tree) (path : String) : Except Fault ByteArray := do
  match ← t.openRead path with
  | .file b => .ok b
  | .dir => .error .isADirectory

/-- The text of a file. -/
def readText (t : Tree) (path : String) : Except Fault String := do
  match String.fromUTF8? (← t.readFile path) with
  | some s => .ok s
  | none => .error .notText

/-- The size of the file or directory at a path. -/
def size (t : Tree) (path : String) : Except Fault Nat := do
  match ← t.openRead path with
  | .file b => .ok b.size
  | .dir => .ok 4096

/-- Makes an empty file, or empties the one there; the result tells its place. A name with a slash after it is taken for
that of a directory before it is looked at. -/
def createFile (t : Tree) (path : String) : Except Fault (Tree × Place) := do
  let g ← t.target path
  match g.name? with
  | none => .error .isADirectory
  | some n =>
    if g.slash then .error .isADirectory
    else
      match ← t.child g.dir n with
      | some .dir => .error .isADirectory
      | _ => .ok (t.put (g.dir.child n) (.file .empty), g.dir.child n)

/-- Removes a file. -/
def removeFile (t : Tree) (path : String) : Except Fault (Tree × Place) := do
  let g ← t.target path
  match g.name? with
  | none => .error .isADirectory
  | some n =>
    match ← t.child g.dir n with
    | none => .error .notFound
    | some .dir => .error .isADirectory
    | some (.file _) => if g.slash then .error .notADirectory else .ok (t.erase (g.dir.child n), g.dir.child n)

/-- Makes what is missing on the way of some pieces from a directory on; `made` tells that something was made before. A
file on the way is no directory to go on from, but once something has been made every piece is taken for one to make.
Directories made before a fault stay. -/
def makeWay (t : Tree) (made : Bool) (p : Place) : List String → Except Fault Unit × Tree
  | [] => (.ok (), t)
  | n :: ns =>
    if n = "" ∨ n = "." then t.makeWay made p ns
    else if n = ".." then t.makeWay made p.parent ns
    else
      match t.child p n with
      | .error e => (.error e, t)
      | .ok (some .dir) => t.makeWay made (p.child n) ns
      | .ok (some (.file _)) => (.error (if made ∨ ns.all (· = "") then .alreadyExists else .notADirectory), t)
      | .ok none => (t.put (p.child n) .dir).makeWay true (p.child n) ns

/-- Makes a directory and the directories above it that are missing. -/
def makeDirs (t : Tree) (path : String) : Except Fault Unit × Tree :=
  if path = "" then (.ok (), t)
  else
    match checkPath path with
    | .error e => (.error e, t)
    | .ok _ => t.makeWay false (t.start path).1 (t.start path).2

/-- Appends bytes to the file at a place; elsewhere nothing changes. -/
def append (t : Tree) (p : Place) (b : ByteArray) : Tree :=
  match t.entry? p with
  | some (.file c) => t.put p (.file (c ++ b))
  | _ => t

end Tree

end Custodian
