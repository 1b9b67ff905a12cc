import Custodian.Bytes
import Custodian.Digest
import Custodian.Error
import Custodian.Files.Sink
import Custodian.Message.Basic

/-!
# Downloads

A stream of restore frames becomes files under a target directory. `restorePath?` : where a named file goes.
`Download.run` : takes a stream apart, compares each file's digest with the one announced and removes what differs;
its `Outcome` tells which files were verified, mismatched or rejected. Every call to the sink and the digest is noted,
in order, as a `Download.Step`.
-/

namespace Custodian

set_option autoImplicit false

/-- The place of a restored file: its name without leading slashes, below `dir`. A name that has no components then, or
one that leads elsewhere than inwards, has none. -/
def restorePath? (dir name : String) : Option String :=
  let rest := String.ofList (name.toList.dropWhile (· = '/'))
  if Path.components rest ≠ [] ∧ (Path.components rest).all Path.Component.isInward then some (Path.join dir rest)
  else none

namespace Download

/-- What a download did with the files: how many are verified, and the names of those whose digest differs or whose
name was not accepted. -/
structure Outcome where
  verified : Nat := 0
  mismatched : List String := []
  rejected : List String := []
deriving DecidableEq, Inhabited

/-- Whether no file was refused. -/
def Outcome.clean (o : Outcome) : Bool := o.mismatched.isEmpty && o.rejected.isEmpty

/-- A call to the sink or the digest. -/
inductive Call where
  | openFile (path : String)
  | write (bytes : ByteArray)
  | close
  | remove (path : String)
  | reset
  | update (bytes : ByteArray)
  | checksum (digits : String)
deriving DecidableEq, Inhabited

/-- A call and whether it failed. -/
structure Step where
  call : Call
  failed : Bool := false
deriving DecidableEq, Inhabited

/-- What is kept from one download to the next: the store behind the sink and the running digest; and the steps so
far. -/
structure Engine (σ : Type) where
  store : σ
  digest : Digest := .empty
  steps : Array Step := #[]

/-- A file that is being received. -/
structure Current where
  name : String
  path : String
deriving DecidableEq, Inhabited

/-- Where a download stands. -/
structure Progress (σ : Type) where
  engine : Engine σ
  current : Option Current := none
  outcome : Outcome := {}

variable {σ : Type}

/-- Notes a call to the sink and its result. -/
def Engine.after (g : Engine σ) (call : Call) (r : Except Fault Unit × σ) : Except Fault Unit × Engine σ :=
  (r.1, { g with store := r.2, steps := g.steps.push ⟨call, !r.1.isOk⟩ })

/-- Notes a call to the digest. -/
def Engine.note (g : Engine σ) (call : Call) (digest : Digest) : Engine σ :=
  { g with digest := digest, steps := g.steps.push ⟨call, false⟩ }

/-- A fault of the file at `path` ends the download. -/
def failedAt (path : String) (f : Fault) : Error := .downloadFailed (path ++ ": " ++ f.message)

/-- A file name opens a new file, or is rejected; in both cases the file before is given up. -/
def takeName (sink : Sink σ) (dir name : String) (p : Progress σ) : Except Error Unit × Progress σ :=
  match restorePath? dir name with
  | none =>
    (.ok (), { p with
      current := none
      outcome := { p.outcome with rejected := p.outcome.rejected ++ [name] } })
  | some path =>
    match p.engine.after (.openFile path) (sink.openFile path p.engine.store) with
    | (.error f, g) => (.error (failedAt path f), { p with engine := g })
    | (.ok _, g) => (.ok (), { p with engine := g.note .reset .empty, current := some ⟨name, path⟩ })

/-- Content is appended to the file being received; without one it is passed over. -/
def takeContent (sink : Sink σ) (bytes : ByteArray) (p : Progress σ) : Except Error Unit × Progress σ :=
  match p.current with
  | none => (.ok (), p)
  | some file =>
    match p.engine.after (.write bytes) (sink.write bytes p.engine.store) with
    | (.error f, g) => (.error (failedAt file.path f), { p with engine := g })
    | (.ok _, g) => (.ok (), { p with engine := g.note (.update bytes) (g.digest.update bytes) })

/-- A digest ends the file being received: it is closed, and removed if its own digest is another. -/
def takeChecksum (sink : Sink σ) (expected : String) (p : Progress σ) : Except Error Unit × Progress σ :=
  let actual := p.engine.digest.text
  let g := p.engine.note (.checksum actual) .empty
  match p.current with
  | none => (.ok (), { p with engine := g })
  | some file =>
    match g.after .close (sink.close g.store) with
    | (.error f, g) => (.error (failedAt file.path f), { p with engine := g, current := none })
    | (.ok _, g) =>
      if actual = expected then
        (.ok (), ⟨g, none, { p.outcome with verified := p.outcome.verified + 1 }⟩)
      else
        let r := g.after (.remove file.path) (sink.remove file.path g.store)
        (.ok (), ⟨r.2, none, { p.outcome with mismatched := p.outcome.mismatched ++ [file.name] }⟩)

/-- What one piece does. -/
def take (sink : Sink σ) (dir : String) (piece : Piece) (p : Progress σ) : Except Error Unit × Progress σ :=
  match piece with
  | .name s => takeName sink dir s p
  | .content b => takeContent sink b p
  | .checksum s => takeChecksum sink s p

/-- The end of a stream closes the sink. -/
def finish (sink : Sink σ) (p : Progress σ) : Except Error Outcome × Engine σ :=
  match p.engine.after .close (sink.close p.engine.store) with
  | (.error f, g) => (.error (.downloadFailed f.message), g)
  | (.ok _, g) => (.ok p.outcome, g)

/-- Takes the frames of a stream up to the first that could not be read. Frames without a piece change nothing. -/
def frames (sink : Sink σ) (dir : String) : List (Except Error RestoreFrame) → Progress σ →
    Except Error Outcome × Engine σ
  | [], p => finish sink p
  | .error e :: _, p =>
    (.error (.downloadFailed e.message), (p.engine.after .close (sink.close p.engine.store)).2)
  | .ok f :: rest, p =>
    match f.piece? with
    | none => frames sink dir rest p
    | some (_, piece) =>
      match take sink dir piece p with
      | (.error e, q) => (.error e, q.engine)
      | (.ok _, q) => frames sink dir rest q

/-- Downloads one stream into a directory. -/
def run (sink : Sink σ) (dir : String) (stream : List (Except Error RestoreFrame)) (g : Engine σ) :
    Except Error Outcome × Engine σ :=
  frames sink dir stream { engine := g }

end Download

end Custodian
