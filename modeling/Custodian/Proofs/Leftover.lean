import Custodian.Proofs.Breakdown

/-!
# What a restore leaves behind

* `Session.restored` : what a session knows of a restore; `restored_afterReport`, `restored_afterBreakdown` : a report
  or a breakdown forgets it or leaves it alone;
* `Agent.open?` : the restore that an agent has been told of and has not ended; `restored_respond` : what a session
  knows after one frame, `restored_respondAll` : after a row of frames;
* `restored_at_backup` : a command for a backup finds what the open restore has left, and nothing if there is none;
  `not_forall_backup_begins_empty` : there can be one.
-/

namespace Custodian

set_option autoImplicit false

variable {ω : Type}

/-! ## Sessions -/

/-- What a session knows of a restore. -/
def Session.restored (s : Session) : List Fragment × SoftwareVersion := (s.fragments, s.version)

/-- What a session knows of a restore that it has been told of, if it has been told of one. -/
def restoredOf : Option Execution → List Fragment × SoftwareVersion
  | some e => (e.fragments, e.version.getD .unknown)
  | none => ([], .unknown)

/-- The restore that a frame tells of. -/
def OrchestratorFrame.restore? (frame : OrchestratorFrame) : Option Execution :=
  match frame.body, Action.ofCode frame.action with
  | some (.execution e), .restore => some e
  | some (.preparation p), .restore => some p.toExecution
  | _, _ => none

/-- Whether a report ends a restore: all do but those on a backup and on a preparation. -/
def Facade.endsRestore (f : Facade) : Bool :=
  match f with
  | .stage .preparation _ => false
  | f => f.action ≠ .backup

theorem Facade.restored_afterReport (f : Facade) (s : Session) :
    (f.afterReport s).restored = if f.endsRestore then restoredOf none else s.restored := by
  rcases f with _ | _ | ⟨stage, action⟩
  · rfl
  · rfl
  · cases stage <;> cases action <;> rfl

namespace Agent

theorem restored_afterBreakdown (action : Action) (s : Session) :
    (afterBreakdown action s).restored = if action = .restore then restoredOf none else s.restored := by
  unfold afterBreakdown
  split_ifs <;> rfl

theorem restored_of_command? {b : Behavior ω} {frame : OrchestratorFrame} {s : Session} {c : Command ω}
    (h : b.command? frame s = some c) :
    c.session.restored = (frame.restore?.map fun e => restoredOf (some e)).getD s.restored := by
  have hcalls := Behavior.calls_of_command? h
  unfold OrchestratorFrame.restore?
  generalize frame.body = body, Action.ofCode frame.action = action at hcalls
  cases hcalls <;> rfl

variable (a : Agent)

/-! ## Routines -/

theorem session_download (f : Fragment) (dir : String) (w : World ω) : (a.download f dir w).2.session = w.session := by
  unfold download openRestore
  rcases w.orchestrator.restore ⟨a.identity.agentId, some f, w.session.backupName⟩ with ⟨_ | items, o⟩ <;> rfl

/-- Along a routine the session forgets a restore with the first report that ends it, and never before. -/
theorem restored_course {f : Facade} (routine : Routine ω f Unit) (w : World ω) :
    (a.course routine w).2.2.session.restored =
      if f.endsRestore ∧ (a.course routine w).2.1 ≠ [] then restoredOf none else w.session.restored := by
  refine routine.run_preserves (P := fun s : List AgentFrame × World ω => s.2.session.restored =
    if f.endsRestore ∧ s.1 ≠ [] then restoredOf none else w.session.restored) ?_ ?_ ?_
  · intro r s hs
    cases r with
    | complete success message =>
      change (f.afterReport s.2.session).restored = _
      rw [f.restored_afterReport, hs]
      by_cases hf : f.endsRestore = true <;> simp [hf, reply]
    | download f dir =>
      change (a.download f dir s.2).2.session.restored = _
      rw [session_download]
      exact hs
    | look | send | fileSize => exact hs
  · exact fun n s hs => hs
  · simp

/-- Whether a command ends a restore: by a report that does so, or by a breakdown. -/
def ends (c : Command ω) (w : World ω) : Bool :=
  match a.course c.routine { w with session := c.session } with
  | (some _, said, _) => c.facade.endsRestore ∧ said ≠ []
  | (none, said, _) => (c.facade.endsRestore ∧ said ≠ []) ∨ c.facade.action = .restore

theorem restored_obey (c : Command ω) (w : World ω) :
    (a.obey c w).2.session.restored = if a.ends c w then restoredOf none else c.session.restored := by
  have hcourse := a.restored_course c.routine { w with session := c.session }
  unfold obey ends
  generalize a.course c.routine { w with session := c.session } = x at hcourse
  rcases x with ⟨_ | u, said, w'⟩
  · simp only [restored_afterBreakdown, hcourse, decide_eq_true_eq]
    by_cases haction : c.facade.action = .restore
    · simp [haction]
    · simp [haction, Session.restored]
  · simpa using hcourse

/-! ## Rows of frames -/

/-- The restore that is open once an agent has dealt with a frame: the one that the frame tells of, or else the one that
was open before, unless it has been ended. -/
def openAfter (x : Behavior ω × OrchestratorFrame) (w : World ω) (e : Option Execution) : Option Execution :=
  match x.1.command? x.2 w.session with
  | none => e
  | some c => if a.ends c w then none else x.2.restore?.or e

/-- The restore that an agent has been told of in a row of frames and has not ended. -/
def open? : List (Behavior ω × OrchestratorFrame) → World ω → Option Execution → Option Execution
  | [], _, e => e
  | x :: xs, w, e => open? xs (a.respond x.1 x.2 w).2 (a.openAfter x w e)

variable {a}

theorem restored_respond {x : Behavior ω × OrchestratorFrame} {w : World ω} {e : Option Execution}
    (h : w.session.restored = restoredOf e) :
    (a.respond x.1 x.2 w).2.session.restored = restoredOf (a.openAfter x w e) := by
  unfold respond openAfter
  cases hc : x.1.command? x.2 w.session with
  | none => exact h
  | some c =>
    simp only [restored_obey, restored_of_command? hc, h]
    split_ifs
    · rfl
    · cases x.2.restore? <;> rfl

theorem restored_respondAll (xs : List (Behavior ω × OrchestratorFrame)) {w : World ω} {e : Option Execution}
    (h : w.session.restored = restoredOf e) :
    (a.respondAll xs w).2.session.restored = restoredOf (a.open? xs w e) := by
  induction xs generalizing w e with
  | nil => exact h
  | cons x xs ih => exact ih (restored_respond h)

/-- **What a command for a backup finds of a restore.** An agent at work on an open call began with an empty session
and has dealt with any row of frames. Then a command for a backup begins in a session that knows of the restore that is
open, if there is one, and of none otherwise: only reports and breakdowns end a restore, the beginning of a backup does
not. -/
theorem restored_at_backup (a : Agent) (l : Line) (w : World ω) (hl : l.Attentive) (hw : w.session = {})
    (before : List (Behavior ω × OrchestratorFrame)) (b : Behavior ω) (frame : OrchestratorFrame) (c : Command ω)
    (haction : Action.ofCode frame.action = .backup)
    (hc : b.command? frame (a.attend before (l, w)).2.session = some c) :
    c.session.fragments = ((a.open? before w none).map Execution.fragments).getD [] ∧
      c.session.version = ((a.open? before w none).bind Execution.version).getD .unknown := by
  have hrestored : (a.attend before (l, w)).2.session.restored = restoredOf (a.open? before w none) := by
    rw [a.attend_eq hl]
    exact restored_respondAll before (by rw [hw]; rfl)
  -- a command for a backup tells the session of no restore, so it leaves what is there
  have hnone : frame.restore? = none := by
    unfold OrchestratorFrame.restore?
    rw [haction]
    split <;> simp_all
  have hsession := restored_of_command? hc
  rw [hnone, Option.map_none, Option.getD_none, hrestored] at hsession
  cases ho : a.open? before w none with
  | none =>
    rw [ho] at hsession
    exact Prod.mk.inj hsession
  | some e =>
    rw [ho] at hsession
    exact Prod.mk.inj hsession

/-- After the preparation of a restore nobody reports the end of, the preparation of a backup finds its fragments and
its version. -/
theorem restored_at_backup_after_preparation :
    let a : Agent := { identity := { agentId := "A", scope := "", version := {}, apiVersion := "4" }, chunkSize := 4 }
    let b : Behavior Unit := {
      registration := default
      executeBackup := .report true ""
      executeRestore := .report true "" }
    let w : World Unit := { tree := .ofWork .root }
    let l := (Line.settle (a.handle b) ((a.registrate (.ofPlans 3 [{}] {})).1, w)).1
    let restore : OrchestratorFrame :=
      { action := 2, body := some (.preparation { fragments := [{ id := "A_1" }], version := some {} }) }
    let backup : OrchestratorFrame := { action := 1, body := some (.preparation { backupName := "nightly" }) }
    ∃ c, b.command? backup (a.attend [(b, restore)] (l, w)).2.session = some c ∧
      c.session.fragments = [{ id := "A_1" }] ∧ c.session.version = {} := by
  intro a b w l restore backup
  have hl : l.Attentive := (a.attentive_of_registrate 3 [] {} (a.handle b) w).1
  have haction : Action.ofCode backup.action = .backup := by decide
  obtain ⟨c, hc⟩ : ∃ c, b.command? backup (a.attend [(b, restore)] (l, w)).2.session = some c :=
    Option.isSome_iff_exists.1 (b.isSome_command? backup _)
  obtain ⟨hfragments, hversion⟩ := restored_at_backup a l w hl rfl [(b, restore)] b backup c haction hc
  refine ⟨c, hc, hfragments.trans ?_, hversion.trans ?_⟩ <;> decide +kernel

/-- Not every backup begins without the data of a restore. -/
theorem not_forall_backup_begins_empty :
    ¬ ∀ (a : Agent) (l : Line) (w : World Unit) (before : List (Behavior Unit × OrchestratorFrame)) (b : Behavior Unit)
      (frame : OrchestratorFrame) (c : Command Unit), l.Attentive → w.session = {} →
      Action.ofCode frame.action = .backup → b.command? frame (a.attend before (l, w)).2.session = some c →
      c.session.fragments = [] ∧ c.session.version = .unknown := by
  intro h
  let a : Agent := { identity := { agentId := "A", scope := "", version := {}, apiVersion := "4" }, chunkSize := 4 }
  let b : Behavior Unit := {
    registration := default
    executeBackup := .report true ""
    executeRestore := .report true "" }
  let w : World Unit := { tree := .ofWork .root }
  let l := (Line.settle (a.handle b) ((a.registrate (.ofPlans 3 [{}] {})).1, w)).1
  let restore : OrchestratorFrame := { action := 2, body := some (.preparation { fragments := [{ id := "A_1" }] }) }
  let backup : OrchestratorFrame := { action := 1, body := some (.preparation { backupName := "nightly" }) }
  have hl : l.Attentive := (a.attentive_of_registrate 3 [] {} (a.handle b) w).1
  have hsees : ((b.command? backup (a.attend [(b, restore)] (l, w)).2.session).map fun c => c.session.fragments) =
      some [{ id := "A_1" }] := by decide +kernel
  obtain ⟨c, hc, hfragments⟩ := Option.map_eq_some_iff.1 hsees
  have hempty := (h a l w [(b, restore)] b backup c hl rfl (by decide) hc).1
  rw [hfragments] at hempty
  cases hempty

end Agent

end Custodian
