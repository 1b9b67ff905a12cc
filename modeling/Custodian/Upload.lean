import Custodian.Bytes
import Custodian.Digest
import Custodian.Files.Chunks
import Custodian.Fragment
import Custodian.Upload.Call

/-!
# Uploads

A fragment is sent as one row of frames: its metadata, then for each of its files the name, the content in chunks and
the digest. `Upload.run` sends a fragment over a call; every call to the source and the digest is noted, in order, as an
`Upload.Step`. `expectedFrames` is what a receiver gets when nothing fails.
-/

namespace Custodian

set_option autoImplicit false

namespace Upload

/-- The frame that introduces a fragment. -/
def metadataFrame (f : BackupFragment) (agentId backupName : String) : BackupFrame :=
  ⟨metadataType, some (.metadata ⟨agentId, some f.fragment, backupName⟩)⟩

/-- The name that a file is sent under; a path without a name gives an empty one. Paths are texts: names that are not
Unicode, which could only be sent with their bad bytes replaced, are left out. -/
def sentName (path : String) : String := (Path.fileName? path).getD ""

/-- The frames of one file. -/
def fileFrames (role : FileRole) (path : String) (chunks : List ByteArray) : List BackupFrame :=
  .ofPiece role (.name (sentName path)) :: chunks.map (fun b => .ofPiece role (.content b)) ++
    [.ofPiece role (.checksum (Digest.of (chunks.foldl (· ++ ·) .empty)))]

/-- The frames of a fragment, given the chunks of each file. -/
def expectedFrames (f : BackupFragment) (agentId backupName : String) (chunks : String → List ByteArray) :
    List BackupFrame :=
  metadataFrame f agentId backupName :: f.files.flatMap fun e => fileFrames e.1 e.2 (chunks e.2)

/-- A call to the source or the digest. -/
inductive Step where
  | openFile (path : String)
  | nextChunk
  | reset
  | update (bytes : ByteArray)
  | checksum (digits : String)
deriving DecidableEq, Inhabited

/-- Where files come from, and whether reading them takes time in which the other side of a call reads on. -/
structure Supply where
  source : Source
  slow : Bool := false

/-- Why an upload stops early: a failure, which the sender is told of, or a breakdown, which ends the sender as well. -/
inductive Halt where
  | failed (e : Error)
  | breakdown

/-- Where an upload stands. -/
structure Progress where
  call : BackupCall
  digest : Digest := .empty
  steps : Array Step := #[]

/-- Steps of an upload, which may stop early. -/
abbrev Run := ExceptT Halt (StateM Progress)

/-- Notes a step and what it leaves of the digest. -/
def note (step : Step) (digest : Digest → Digest) : Run Unit :=
  modify fun p => { p with steps := p.steps.push step, digest := digest p.digest }

/-- Notes a step of the source, during which the other side may read on. -/
def consult (supply : Supply) (step : Step) : Run Unit :=
  modify fun p =>
    let call := p.call.turn
    { p with steps := p.steps.push step, call := if supply.slow then call.pause else call }

/-- Sends one frame. -/
def send (f : BackupFrame) : Run Unit := fun p =>
  match p.call.send f with
  | (r, c) => (r.mapError .failed, { p with call := c })

/-- Reads past the last chunk. A breakdown takes no time. -/
def endReading (supply : Supply) : ReadingEnd → Run Unit
  | .complete => consult supply .nextChunk
  | .fault f => do
    consult supply .nextChunk
    throw (.failed (.streamError f.message))
  | .breakdown => do
    note .nextChunk id
    throw .breakdown

/-- Sends the content of a file, chunk by chunk. -/
def sendChunks (supply : Supply) (role : FileRole) (ending : ReadingEnd) : List ByteArray → Run Unit
  | [] => endReading supply ending
  | b :: bs => do
    consult supply .nextChunk
    note (.update b) (·.update b)
    send (.ofPiece role (.content b))
    sendChunks supply role ending bs

/-- Sends one file. -/
def sendFile (supply : Supply) (role : FileRole) (path : String) : Run Unit := do
  consult supply (.openFile path)
  match supply.source path with
  | .error f => throw (.failed (.streamError f.message))
  | .ok r =>
    note .reset fun _ => .empty
    send (.ofPiece role (.name (sentName path)))
    sendChunks supply role r.ending r.chunks
    let digits := (← get).digest.text
    note (.checksum digits) fun _ => .empty
    send (.ofPiece role (.checksum digits))

/-- Words the failure of a step after the file it concerns; a closed stream is explained by the call's own answer. A
breakdown takes the sender with it. -/
def concerning (path : String) (run : Run Unit) : Run Unit := fun p =>
  match run p with
  | (.ok u, q) => (.ok u, q)
  | (.error .breakdown, q) => (.error .breakdown, { q with call := q.call.abandon })
  | (.error (.failed e), q) =>
    let (e, c) := q.call.explain e
    (.error (.failed (.transferFailed path e.message)), { q with call := c })

/-- Sends files one after another. -/
def sendFiles (supply : Supply) : List (FileRole × String) → Run Unit
  | [] => pure ()
  | f :: fs => do
    concerning f.2 (sendFile supply f.1 f.2)
    sendFiles supply fs

/-- Ends the call. -/
def finish (path : String) : Run Unit := fun p =>
  match p.call.finish with
  | (.ok _, c) => (.ok (), { p with call := c })
  | (.error e, c) => (.error (.failed (.transferFailed path e.message)), { p with call := c })

/-- Sends a fragment and ends the call. -/
def transfer (supply : Supply) (f : BackupFragment) (agentId backupName : String) : Run Unit := do
  concerning f.path (send (metadataFrame f agentId backupName))
  sendFiles supply f.files
  finish f.path

/-- Sends a fragment over a new call; the digest is the one that an earlier upload left. -/
def run (supply : Supply) (f : BackupFragment) (agentId backupName : String) (plan : CallPlan)
    (digest : Digest := .empty) : Except Halt Unit × Progress :=
  transfer supply f agentId backupName { call := .start plan, digest := digest }

end Upload

end Custodian
