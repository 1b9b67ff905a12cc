import Custodian.Files.Tree

/-!
# Sinks

`Sink` : where restored files go, one at a time: open, write, close, remove. `FileSink` : the sink that writes to a file
tree; `FileSink.run` : calls to it in any order.
-/

namespace Custodian

set_option autoImplicit false

/-- The operations of a store of files that has at most one file open. -/
structure Sink (σ : Type) where
  openFile : String → σ → Except Fault Unit × σ
  write : ByteArray → σ → Except Fault Unit × σ
  close : σ → Except Fault Unit × σ
  remove : String → σ → Except Fault Unit × σ

/-- A file that is open: at its place, or no longer listed in the tree. -/
inductive OpenFile where
  | listed (p : Place)
  | unlisted
deriving DecidableEq, Inhabited

/-- A tree and the file that is open in it. -/
structure FileSink where
  tree : Tree
  file : Option OpenFile := none
deriving Inhabited

namespace FileSink

/-- Lets go of the open file. -/
def close (s : FileSink) : FileSink := { s with file := none }

/-- Makes the directories that a file at `path` needs. -/
def makeParents (t : Tree) (path : String) : Except Fault Unit × Tree :=
  match Path.parent? path with
  | none => (.ok (), t)
  | some d => t.makeDirs d

/-- Makes an empty file the open one, with the directories on its way; the file open before is let go in any case. -/
def openFile (path : String) (s : FileSink) : Except Fault Unit × FileSink :=
  match makeParents s.tree path with
  | (.error e, t) => (.error e, ⟨t, none⟩)
  | (.ok _, t) =>
    match t.createFile path with
    | .error e => (.error e, ⟨t, none⟩)
    | .ok (t', p) => (.ok (), ⟨t', some (.listed p)⟩)

/-- Appends to the open file. -/
def write (b : ByteArray) (s : FileSink) : Except Fault Unit × FileSink :=
  match s.file with
  | none => (.error .notOpen, s)
  | some .unlisted => (.ok (), s)
  | some (.listed p) => (.ok (), { s with tree := s.tree.append p b })

/-- Takes a file out of the tree; when it is open it stays so. -/
def remove (path : String) (s : FileSink) : Except Fault Unit × FileSink :=
  match s.tree.removeFile path with
  | .error e => (.error e, s)
  | .ok (t, p) => (.ok (), ⟨t, if s.file = some (.listed p) then some .unlisted else s.file⟩)

/-- The sink of a file tree. -/
def sink : Sink FileSink := ⟨openFile, write, fun s => (.ok (), s.close), remove⟩

/-! ## Calls in a row -/

/-- A call to a sink. -/
inductive Act where
  | openFile (path : String)
  | write (b : ByteArray)
  | close
  | remove (path : String)
deriving DecidableEq, Inhabited

/-- What a call does to the sink of a file tree. -/
def act (a : Act) (s : FileSink) : Except Fault Unit × FileSink :=
  match a with
  | .openFile path => sink.openFile path s
  | .write b => sink.write b s
  | .close => sink.close s
  | .remove path => sink.remove path s

/-- Calls one after another: how each of them went, and the sink then. -/
def run (s : FileSink) (as : List Act) : List (Act × Except Fault Unit) × FileSink :=
  as.foldl (fun (h, s) a => (h ++ [(a, (act a s).1)], (act a s).2)) ([], s)

end FileSink

end Custodian
