import Custodian.Behavior
import Custodian.Channel.Line
import Custodian.Orchestrator
import Custodian.Settings
import Custodian.Upload

/-!
# Agents

`Agent` : an identity and the size of the chunks it sends. `Agent.create` : an agent from a registration and settings,
both checked. `Agent.handle` : what an agent does on a control frame: it brings the session up to date and follows the
routine for the command; a routine that breaks down is reported as a failure and ends the session.
-/

namespace Custodian

set_option autoImplicit false

/-- What an agent is made of for as long as it lives. -/
structure Agent where
  identity : Identity
  chunkSize : Nat
deriving Inhabited

/-- What an agent lives in: its session, the other side of its data calls, the files, and what its routines noted. -/
structure World (ω : Type) where
  session : Session := {}
  orchestrator : Orchestrator := {}
  tree : Tree
  notes : Array ω := #[]

/-- The report on a routine that broke down. -/
def breakdownMessage : String := "Exception executing agent behavior"

namespace Agent

variable {ω : Type}

/-- An agent, if the settings and the registration can be used. -/
def create (settings : Settings) (r : Registration) : Except Error Agent := do
  settings.check
  r.check
  return ⟨{ r with apiVersion := settings.apiVersion }, settings.chunkSize⟩

/-! ## Calls -/

/-- Reports the end of a stage. -/
def report (a : Agent) (success : Bool) (message : String) (action : Action) (l : Line) : Except Error Unit × Line :=
  match l.send (a.identity.stageComplete success message action) with
  | (l, .done) => (.ok (), l)
  | (l, .refused e) => (.error e, l)
  | (l, .pending) => (.error .streamClosed, l)

/-- Sends a fragment in a call of its own. -/
def sendBackup (a : Agent) (b : BackupFragment) (w : World ω) : Except Upload.Halt Unit × World ω :=
  let (plan, o) := w.orchestrator.nextBackup
  let supply : Upload.Supply := ⟨w.tree.source a.chunkSize, true⟩
  let (r, p) := Upload.run supply b a.identity.agentId w.session.backupName plan
  (r, { w with orchestrator := o.record p.call })

/-- Opens a restore call for a fragment. -/
def openRestore (a : Agent) (f : Fragment) (w : World ω) :
    Except Error (List (Except Error RestoreFrame)) × World ω :=
  let (r, o) := w.orchestrator.restore ⟨a.identity.agentId, some f, w.session.backupName⟩
  (r, { w with orchestrator := o })

/-- Downloads a fragment into a directory. -/
def download (a : Agent) (f : Fragment) (dir : String) (w : World ω) : Except Error Download.Outcome × World ω :=
  match a.openRestore f w with
  | (.error e, w) => (.error (.downloadFailed e.message), w)
  | (.ok items, w) =>
    let (r, g) := Download.run FileSink.sink dir items { store := ⟨w.tree, none⟩ }
    (r, { w with tree := g.store.tree })

/-! ## Routines -/

/-- What a routine is told of an upload; nothing if it broke down. -/
def uploadAnswer : Except Upload.Halt Unit → Option (Except Error Unit)
  | .ok u => some (.ok u)
  | .error (.failed e) => some (.error e)
  | .error .breakdown => none

/-- Answers a request of a routine. -/
def answer (a : Agent) {f : Facade} (r : Request f) (s : Line × World ω) : Option r.Answer × (Line × World ω) :=
  match f, r with
  | f, .look => (some (f.view s.2.session), s)
  | f, .complete success message =>
    let (r, l) := a.report success message f.action s.1
    (some r, l, { s.2 with session := f.afterReport s.2.session })
  | _, .send b => let (r, w) := a.sendBackup b s.2; (uploadAnswer r, s.1, w)
  | _, .download b dir => let (r, w) := a.download b dir s.2; (some r, s.1, w)
  | _, .fileSize path => (some (s.2.tree.size path), s)

/-- What a breakdown leaves of the session. -/
def afterBreakdown (action : Action) (s : Session) : Session :=
  if action = .restore then s.clearRestore else s.clearBackup

/-- Follows a routine, and reports a failure if it breaks down. -/
def follow (a : Agent) {f : Facade} (routine : Routine ω f Unit) (s : Line × World ω) : Line × World ω :=
  match routine.run a.answer (fun n s => (s.1, { s.2 with notes := s.2.notes.push n })) s with
  | (some _, s) => s
  | (none, l, w) =>
    let (_, l) := a.report false breakdownMessage f.action l
    (l, { w with session := afterBreakdown f.action w.session })

/-- The same surroundings with another session. -/
def inSession (s : Line × World ω) (session : Session) : Line × World ω := (s.1, { s.2 with session := session })

/-- What an agent does on a control frame. A number that stands for no action counts as registering; frames that are no
command change nothing. -/
def handle (a : Agent) (b : Behavior ω) : Line.Handler (World ω) := fun frame s =>
  match frame.body, Action.ofCode frame.action with
  | some (.execution e), .backup => a.follow b.executeBackup (inSession s (s.2.session.startBackup e.backupName))
  | some (.execution e), .restore => a.follow b.executeRestore (inSession s (.startRestore e))
  | some (.preparation p), .backup =>
    a.follow b.prepareForBackup (inSession s (s.2.session.startBackup p.backupName))
  | some (.preparation p), .restore =>
    a.follow b.prepareForRestore (inSession s (.startRestore p.toExecution))
  | some .postActions, .backup => a.follow b.postBackup s
  | some .postActions, .restore => a.follow b.postRestore s
  | some .cancel, action => a.follow (b.cancelAction action) s
  | _, _ => s

/-- Introduces the agent; the first time this establishes the channel. -/
def registrate (a : Agent) (l : Line) : Line × Channel.Reply :=
  if l.channel.established then l.send a.identity.register
  else
    match l.event .establish with
    | (l, .refused e) => (l, .refused e)
    | (l, _) => l.send a.identity.register

end Agent

end Custodian
