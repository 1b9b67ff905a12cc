import Custodian.Download
import Custodian.Fragment
import Custodian.Session

/-!
# Behaviors

`Behavior` : what an agent does on each command, one `Routine` for each. A routine is a tree of requests to the facade
it was given, with a branch for each answer; it may note what it sees, and it may break down.
-/

namespace Custodian

set_option autoImplicit false

/-- A step around the execution of a command. -/
inductive Stage where
  | preparation
  | postActions
  | cancel
deriving DecidableEq, Inhabited

/-- What a routine is for, and so what it may ask for. -/
inductive Facade where
  | backup
  | restore
  | stage (s : Stage) (a : Action)
deriving DecidableEq, Inhabited

namespace Facade

/-- The action that a routine reports on. -/
def action : Facade → Action
  | .backup => .backup
  | .restore => .restore
  | .stage _ a => a

/-- What a report leaves of the session. A preparation leaves it for the command to come. -/
def afterReport : Facade → Session → Session
  | .backup, s => s.clearBackup
  | .restore, s => s.clearRestore
  | .stage .preparation _, s => s
  | .stage _ .backup, s => s.clearBackup
  | .stage _ _, s => s.clearRestore

/-- What a routine can see of the session: for a backup only its name. -/
def View : Facade → Type
  | .backup => String
  | _ => Session

/-- What a routine sees of a session. -/
def view : (f : Facade) → Session → f.View
  | .backup, s => s.backupName
  | .restore, s => s
  | .stage _ _, s => s

end Facade

/-- What a routine can ask for. -/
inductive Request : Facade → Type where
  /-- A look at the session. -/
  | look {f : Facade} : Request f
  /-- A report that the stage is complete. -/
  | complete {f : Facade} (success : Bool) (message : String) : Request f
  /-- The upload of a fragment. -/
  | send (b : BackupFragment) : Request .backup
  /-- The download of a fragment into a directory. -/
  | download (b : Fragment) (dir : String) : Request .restore
  /-- The size of a file. -/
  | fileSize {f : Facade} (path : String) : Request f

/-- What a request is answered with. -/
def Request.Answer : {f : Facade} → Request f → Type
  | f, .look => f.View
  | _, .complete _ _ => Except Error Unit
  | _, .send _ => Except Error Unit
  | _, .download _ _ => Except Error Download.Outcome
  | _, .fileSize _ => Except Fault Nat

/-- What to do for a command, up to a value. `ω` is what can be noted. -/
inductive Routine (ω : Type) (f : Facade) (α : Type) where
  | done (a : α)
  | breakdown
  | note (w : ω) (next : Routine ω f α)
  | ask (r : Request f) (next : r.Answer → Routine ω f α)

namespace Routine

variable {ω α β : Type} {f : Facade}

/-- A routine that goes on with the value of another. -/
def bind : Routine ω f α → (α → Routine ω f β) → Routine ω f β
  | .done a, k => k a
  | .breakdown, _ => .breakdown
  | .note w next, k => .note w (next.bind k)
  | .ask r next, k => .ask r fun a => (next a).bind k

instance : Monad (Routine ω f) where
  pure := .done
  bind := bind

/-- Asks for something. -/
def request (r : Request f) : Routine ω f r.Answer := .ask r .done

/-- Follows a routine: `answer` deals with its requests, `noted` with its notes. There is no value if it breaks down, by
itself or over a request that nothing answers. -/
def run {σ : Type} (answer : (r : Request f) → σ → Option r.Answer × σ) (noted : ω → σ → σ) :
    Routine ω f α → σ → Option α × σ
  | .done a, s => (some a, s)
  | .breakdown, s => (none, s)
  | .note w next, s => run answer noted next (noted w s)
  | .ask r next, s =>
    match answer r s with
    | (some a, s) => run answer noted (next a) s
    | (none, s) => (none, s)

/-- Reports and does nothing else. -/
def report (success : Bool) (message : String) : Routine ω f Unit :=
  .ask (.complete success message) fun _ => .done ()

end Routine

/-- Who an agent is and what it does on each command. -/
structure Behavior (ω : Type) where
  registration : Registration
  executeBackup : Routine ω .backup Unit
  executeRestore : Routine ω .restore Unit
  prepareForBackup : Routine ω (.stage .preparation .backup) Unit :=
    .report true "Preparation for backup is successful"
  postBackup : Routine ω (.stage .postActions .backup) Unit := .report true "Post backup actions completed"
  prepareForRestore : Routine ω (.stage .preparation .restore) Unit :=
    .report true "Preparation for restore is successful"
  postRestore : Routine ω (.stage .postActions .restore) Unit := .report true "Post restore actions completed"
  cancelAction : (a : Action) → Routine ω (.stage .cancel a) Unit := fun _ => .report true "Cancel actions completed"

end Custodian
