import Custodian.Message.Basic
import Custodian.Upload.Call

/-!
# Data calls

`Orchestrator` : the side that takes backups in and hands them back, following a plan for each call. A restore call
without a plan hands back what the uploads so far hold of the fragment, `Orchestrator.replay`.
-/

namespace Custodian

set_option autoImplicit false

/-- How a restore call goes. -/
inductive RestorePlan where
  | refuses (e : Error)
  | delivers (items : List (Except Error RestoreFrame))
deriving Inhabited

/-- The plans of the calls to come, and what the calls so far brought. -/
structure Orchestrator where
  backups : List CallPlan := []
  restores : List RestorePlan := []
  requests : Array Metadata := #[]
  uploads : Array (List BackupFrame) := #[]
deriving Inhabited

namespace Orchestrator

/-- The chunks in a row of backup frames that follow metadata of the fragment `id`, as they are handed back; `on` tells
whether the metadata before was such. -/
def replayFrames (id : String) : Bool → List BackupFrame → List RestoreFrame
  | _, [] => []
  | on, f :: fs =>
    match f.body with
    | some (.metadata m) => replayFrames id ((m.fragment.getD {}).id = id) fs
    | some (.file role chunk) =>
      if on then ⟨f.dataType, some ⟨role, chunk⟩⟩ :: replayFrames id on fs else replayFrames id on fs
    | none => replayFrames id on fs

/-- The chunks that all uploads hold of a fragment. -/
def replay (o : Orchestrator) (id : String) : List RestoreFrame := o.uploads.toList.flatMap (replayFrames id false)

/-- The plan of the next backup call; without one it accepts. -/
def nextBackup (o : Orchestrator) : CallPlan × Orchestrator :=
  match o.backups with
  | [] => ({}, o)
  | p :: ps => (p, { o with backups := ps })

/-- Keeps the frames of a call that ended; those of a call that was given up are lost. -/
def record (o : Orchestrator) (c : BackupCall) : Orchestrator :=
  match c.result with
  | some fs => { o with uploads := o.uploads.push fs }
  | none => o

/-- A restore call. -/
def restore (o : Orchestrator) (m : Metadata) : Except Error (List (Except Error RestoreFrame)) × Orchestrator :=
  let o := { o with requests := o.requests.push m }
  match o.restores with
  | [] => (.ok ((o.replay (m.fragment.getD {}).id).map .ok), o)
  | .refuses e :: ps => (.error e, { o with restores := ps })
  | .delivers items :: ps => (.ok items, { o with restores := ps })

end Orchestrator

end Custodian
