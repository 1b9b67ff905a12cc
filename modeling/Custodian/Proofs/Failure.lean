import Custodian.Proofs.Answers
import Custodian.Proofs.Leftover

/-!
# Breaking down and reporting a failure

* `Routine.run_bind` : a routine that goes on with the value of another is followed in two parts;
* `Agent.session_attempt_of_silent` : a routine that reports nothing leaves the session alone;
* `Facade.afterReport_eq_afterBreakdown` : of the session of a backup or a restore a report and a breakdown leave the
  same;
* `Agent.handle_of_breakdown` : so a routine that breaks down does what one does that reports the failure itself, unless
  something is cancelled that is neither a backup nor a restore; `not_forall_breakdown_as_report` : there a breakdown
  leaves more of the session.
-/

namespace Custodian

set_option autoImplicit false

variable {ω α : Type}

/-! ## One routine after another -/

theorem Routine.run_bind {β σ : Type} {f : Facade} {answer : (r : Request f) → σ → Option r.Answer × σ}
    {noted : ω → σ → σ} (routine : Routine ω f α) (k : α → Routine ω f β) (s : σ) :
    (routine >>= k).run answer noted s =
      match routine.run answer noted s with
      | (some x, t) => (k x).run answer noted t
      | (none, t) => (none, t) := by
  induction routine generalizing s with
  | done x => rfl
  | breakdown => rfl
  | note n next ih => exact ih (noted n s)
  | ask r next ih =>
    change (Routine.ask r fun x => next x >>= k).run answer noted s = _
    rw [run, run]
    rcases answer r s with ⟨_ | x, t⟩
    · rfl
    · exact ih x t

/-! ## Sessions -/

variable {b : Behavior ω} {s : Session} {body : Option OrchestratorBody} {action : Action} {c : Command ω}

theorem Behavior.Calls.facade_ne_preparation (h : b.Calls s body action c) (hbody : ∀ p, body ≠ some (.preparation p))
    (x : Action) : c.facade ≠ .stage .preparation x := by
  cases h with
  | prepareForBackup p | prepareForRestore p => exact absurd rfl (hbody p)
  | executeBackup | executeRestore | postBackup | postRestore | cancelAction => simp

/-- What is neither a backup nor a restore can only be cancelled. -/
theorem Behavior.Calls.eq_cancel (h : b.Calls s body action c) (haction : ¬ (action = .backup ∨ action = .restore)) :
    body = some .cancel ∧ c.facade = .stage .cancel action ∧ c.session = s := by
  cases h with
  | cancelAction action => exact ⟨rfl, rfl, rfl⟩
  | executeBackup | executeRestore | prepareForBackup | prepareForRestore | postBackup | postRestore =>
    simp at haction

/-- Of the session of a backup or of a restore a breakdown leaves what a report leaves, except in a preparation. -/
theorem Facade.afterReport_eq_afterBreakdown {f : Facade} (hstage : ∀ action, f ≠ .stage .preparation action)
    (haction : f.action = .backup ∨ f.action = .restore) (s : Session) :
    f.afterReport s = Agent.afterBreakdown f.action s := by
  rcases f with _ | _ | ⟨stage, action⟩
  · rfl
  · rfl
  · cases stage with
    | preparation => exact absurd rfl (hstage action)
    | postActions | cancel => rcases haction with rfl | rfl <;> rfl

/-- A report that something else is cancelled forgets everything. -/
theorem Facade.afterReport_cancel (haction : ¬ (action = .backup ∨ action = .restore)) (s : Session) :
    (Facade.stage .cancel action).afterReport s = {} := by
  cases action with
  | register | cancel => rfl
  | backup | restore => simp at haction

namespace Agent

variable (a : Agent)

theorem session_answer {f : Facade} {r : Request f} (hr : r.isReport = false) (s : Line × World ω) :
    (a.answer r s).2.2.session = s.2.session := by
  cases r with
  | complete success message => cases hr
  | download b dir => exact a.session_download b dir s.2
  | look | send | fileSize => rfl

theorem session_attempt_of_silent {f : Facade} {routine : Routine ω f α} (h : routine.Silent) (s : Line × World ω) :
    (routine.run a.answer noted s).2.2.session = s.2.session := by
  induction h generalizing s with
  | done x => rfl
  | breakdown => rfl
  | note n _ ih => exact ih _
  | @ask r next hr _ ih =>
    have hsession := a.session_answer hr s
    rw [Routine.run]
    generalize a.answer r s = x at hsession
    rcases x with ⟨_ | answer, t⟩
    · exact hsession
    · exact (ih answer t).trans hsession

/-! ## Two ways to fail -/

/-- Where an agent stands once it has reported a failure. -/
def failed (action : Action) (s : Line × World ω) (session : Session) : Line × World ω :=
  ((s.1.send (a.failure action)).1, { s.2 with session := session })

theorem run_report {f : Facade} (success : Bool) (message : String) (s : Line × World ω) :
    (Routine.report success message : Routine ω f Unit).run a.answer noted s =
      (some (), (s.1.send (a.identity.stageComplete success message f.action)).1,
        { s.2 with session := f.afterReport s.2.session }) := by
  obtain ⟨l, w⟩ := s
  rw [Routine.report, Routine.run, answer, report]
  rcases l.send (a.identity.stageComplete success message f.action) with ⟨l', _ | _ | e⟩ <;> rfl

/-- A routine that breaks down after `before`. -/
theorem follow_breakdown {f : Facade} (before : Routine ω f α) (s : Line × World ω) :
    a.follow (before >>= fun _ => .breakdown) s =
      let t := (before.run a.answer noted s).2
      a.failed f.action t (afterBreakdown f.action t.2.session) := by
  rw [follow_eq, attempt, Routine.run_bind]
  rcases before.run a.answer noted s with ⟨_ | x, t⟩ <;> rfl

/-- A routine that reports the failure after `before`, if it comes to that. -/
theorem follow_report {f : Facade} (before : Routine ω f α) (s : Line × World ω) :
    a.follow (before >>= fun _ => .report false breakdownMessage) s =
      let r := before.run a.answer noted s
      a.failed f.action r.2
        (if r.1.isSome then f.afterReport r.2.2.session else afterBreakdown f.action r.2.2.session) := by
  rw [follow_eq, attempt, Routine.run_bind]
  rcases before.run a.answer noted s with ⟨_ | x, t⟩
  · rfl
  · simp only [run_report]
    rfl

/-- **A breakdown does what a report of the failure does.** A frame to execute something, to complete it or to cancel
calls for a routine of a behavior `b` that does `before`, without a report, and breaks down; that of a behavior `b'`
does `before` and then reports the failure with the same words through the facade it was given. Then the same frames go
out, on any line, and the same is left of the world but for the session. The session is the same as well if the frame is
about a backup or a restore. If it cancels anything else, the breakdown only forgets which backup is named; the report
forgets everything. -/
theorem handle_of_breakdown (a : Agent) (b b' : Behavior ω) (frame : OrchestratorFrame) (s : Line × World ω) (f : Facade)
    (session : Session) (before : Routine ω f α) (hbefore : before.Silent)
    (hb : b.command? frame s.2.session = some ⟨f, session, before >>= fun _ => .breakdown⟩)
    (hb' : b'.command? frame s.2.session =
      some ⟨f, session, before >>= fun _ => .report false breakdownMessage⟩)
    (hbody : ∀ p, frame.body ≠ some (.preparation p)) :
    let t := a.handle b frame s
    let t' := a.handle b' frame s
    let action := Action.ofCode frame.action
    t.1 = t'.1 ∧ t.2 = { t'.2 with session := t.2.session } ∧
      (action = .backup ∨ action = .restore → t.2.session = t'.2.session) ∧
      (¬ (action = .backup ∨ action = .restore) →
        frame.body = some .cancel ∧ t.2.session = s.2.session.clearBackup ∧
          ((before.run a.answer noted s).1.isSome → t'.2.session = {})) := by
  intro t t' action
  have hcalls := Behavior.calls_of_command? hb
  have hfacade : f.action = action := hcalls.action_eq
  have hsession := a.session_attempt_of_silent hbefore (inSession s session)
  obtain ⟨r, hr⟩ : ∃ r, before.run a.answer noted (inSession s session) = r := ⟨_, rfl⟩
  have hbroken : t = a.failed f.action r.2 (afterBreakdown f.action r.2.2.session) := by
    rw [← hr, ← a.follow_breakdown]
    simp only [t, a.handle_eq, hb]
  have hreported : t' = a.failed f.action r.2
      (if r.1.isSome then f.afterReport r.2.2.session else afterBreakdown f.action r.2.2.session) := by
    rw [← hr, ← a.follow_report]
    simp only [t', a.handle_eq, hb']
  rw [hbroken, hreported]
  refine ⟨rfl, rfl, fun haction => ?_, fun haction => ?_⟩
  · have hsame := Facade.afterReport_eq_afterBreakdown (hcalls.facade_ne_preparation hbody)
      (hfacade ▸ haction) r.2.2.session
    simp only [failed, hsame, ite_self]
  · obtain ⟨hcancel, hf, hs⟩ := hcalls.eq_cancel haction
    change f = _ at hf
    change session = _ at hs
    subst hs
    rw [hr] at hsession
    have hrestore : ¬ action = .restore := fun h => haction (.inr h)
    refine ⟨hcancel, ?_, fun hreturns => ?_⟩
    · simp only [failed, afterBreakdown, hfacade, if_neg hrestore, hsession, inSession]
    · rw [show before.run a.answer noted s = r from hr] at hreturns
      simp only [failed, if_pos hreturns, hf]
      exact Facade.afterReport_cancel haction _

/-- A routine looks at the session and breaks down, or reports the failure, when something unknown is cancelled after
the preparation of a restore. -/
theorem handle_of_breakdown_unknown_action :
    let a : Agent := { identity := { agentId := "A", scope := "", version := {}, apiVersion := "4" }, chunkSize := 4 }
    let before (x : Action) : Routine Unit (.stage .cancel x) Unit := .ask .look fun _ => .note () (.done ())
    let b : Behavior Unit := {
      registration := default
      executeBackup := .breakdown
      executeRestore := .breakdown
      cancelAction := fun x => before x >>= fun _ => .breakdown }
    let b' : Behavior Unit := { b with cancelAction := fun x => before x >>= fun _ => .report false breakdownMessage }
    let w : World Unit := { tree := .ofWork .root }
    let l := (Line.settle (a.handle b) ((a.registrate (.ofPlans 3 [{}] {})).1, w)).1
    let restore : OrchestratorFrame :=
      { action := 2, body := some (.preparation { backupName := "nightly", fragments := [{ id := "A_1" }] }) }
    let cancel : OrchestratorFrame := { action := 7, body := some .cancel }
    let s := a.attend [(b, restore)] (l, w)
    (a.handle b cancel s).1 = (a.handle b' cancel s).1 ∧
      (a.handle b cancel s).2.session = { s.2.session with backupName := "" } ∧
      (a.handle b' cancel s).2.session = {} ∧ s.2.session.fragments = [{ id := "A_1" }] := by
  intro a before b b' w l restore cancel s
  have hb : b.command? cancel s.2.session =
      some ⟨.stage .cancel .register, s.2.session, before .register >>= fun _ => .breakdown⟩ := by
    have haction : Action.ofCode cancel.action = .register := by decide
    simp only [Behavior.command?, haction]
    rfl
  have hb' : b'.command? cancel s.2.session =
      some ⟨.stage .cancel .register, s.2.session, before .register >>= fun _ => .report false breakdownMessage⟩ := by
    have haction : Action.ofCode cancel.action = .register := by decide
    simp only [Behavior.command?, haction]
    rfl
  have hbefore : (before .register).Silent := .ask rfl fun _ => .note () (.done ())
  have hbody (p : Preparation) : cancel.body ≠ some (.preparation p) := by simp [cancel]
  obtain ⟨hline, -, -, hsession⟩ := handle_of_breakdown a b b' cancel s _ _ (before .register) hbefore hb hb' hbody
  obtain ⟨-, hbroken, hreported⟩ := hsession (by decide)
  exact ⟨hline, hbroken, hreported rfl, by decide +kernel⟩

/-- Not every breakdown leaves what a report of the failure leaves: when a restore that was prepared is cancelled as
nothing in particular, its fragments stay after a breakdown. -/
theorem not_forall_breakdown_as_report :
    ¬ ∀ (a : Agent) (b b' : Behavior Unit) (frame : OrchestratorFrame) (s : Line × World Unit) (f : Facade)
      (session : Session) (before : Routine Unit f Unit), before.Silent →
      b.command? frame s.2.session = some ⟨f, session, before >>= fun _ => .breakdown⟩ →
      b'.command? frame s.2.session = some ⟨f, session, before >>= fun _ => .report false breakdownMessage⟩ →
      (∀ p, frame.body ≠ some (.preparation p)) →
      (a.handle b frame s).1 = (a.handle b' frame s).1 ∧
        (a.handle b frame s).2.session = (a.handle b' frame s).2.session := by
  intro h
  let a : Agent := { identity := { agentId := "A", scope := "", version := {}, apiVersion := "4" }, chunkSize := 4 }
  let before : Routine Unit (.stage .cancel .cancel) Unit := .done ()
  let b : Behavior Unit := {
    registration := default
    executeBackup := .breakdown
    executeRestore := .breakdown
    cancelAction := fun _ => .breakdown }
  let b' : Behavior Unit := { b with cancelAction := fun _ => .report false breakdownMessage }
  let w : World Unit := { tree := .ofWork .root }
  let l := (Line.settle (a.handle b) ((a.registrate (.ofPlans 3 [{}] {})).1, w)).1
  let restore : OrchestratorFrame := { action := 2, body := some (.preparation { fragments := [{ id := "A_1" }] }) }
  let cancel : OrchestratorFrame := { action := 3, body := some .cancel }
  let s := a.attend [(b, restore)] (l, w)
  have hsame := (h a b b' cancel s (.stage .cancel .cancel) s.2.session before (.done ()) rfl rfl nofun).2
  have hbroken : (a.handle b cancel s).2.session.fragments = [{ id := "A_1" }] := by decide +kernel
  have hreported : (a.handle b' cancel s).2.session.fragments = [] := by decide +kernel
  rw [hsame, hreported] at hbroken
  cases hbroken

end Agent

end Custodian
