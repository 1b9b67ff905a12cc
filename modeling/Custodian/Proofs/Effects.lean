import Custodian.Proofs.Failure

/-!
# What a command does to the session

* `Exchange`, `Routine.exchanges` : what a routine asks for along a run, and what it is told; `reports` : how many
  reports are among it;
* `session_run`, `look_run` : along a run the session changes with the reports only, and every look sees it as the
  reports before have left it;
* `OrchestratorFrame.begun`, `OrchestratorFrame.left` : the session that a command begins in, and the one that it leaves;
* `session_handle` : so it is for every command whose routine reports once, on any line; `Serves.session` : and so for
  every row of them.
-/

namespace Custodian

set_option autoImplicit false

variable {ω α : Type} {f : Facade}

/-! ## Along a run -/

/-- A request and its answer, if there is one. -/
structure Exchange (f : Facade) where
  request : Request f
  answer : Option request.Answer

/-- What a routine asks for along a run, and what it is told. -/
def Routine.exchanges {σ : Type} (answer : (r : Request f) → σ → Option r.Answer × σ) (noted : ω → σ → σ) :
    Routine ω f α → σ → List (Exchange f)
  | .done _, _ => []
  | .breakdown, _ => []
  | .note w next, s => exchanges answer noted next (noted w s)
  | .ask r next, s =>
    match answer r s with
    | (some x, t) => ⟨r, some x⟩ :: exchanges answer noted (next x) t
    | (none, _) => [⟨r, none⟩]

/-- How many reports there are among the requests. -/
def reports (xs : List (Exchange f)) : Nat := xs.countP (·.request.isReport)

theorem reports_cons (x : Exchange f) (xs : List (Exchange f)) :
    reports (x :: xs) = reports xs + if x.request.isReport then 1 else 0 := List.countP_cons

theorem reports_append (xs ys : List (Exchange f)) : reports (xs ++ ys) = reports xs + reports ys :=
  List.countP_append

namespace Agent

variable (a : Agent)

/-- What a routine asks an agent for, and what it is told. -/
def exchanges (routine : Routine ω f α) (s : Line × World ω) : List (Exchange f) :=
  routine.exchanges a.answer noted s

theorem exchanges_ask (r : Request f) (next : r.Answer → Routine ω f α) (s : Line × World ω) :
    ∃ xs, a.exchanges (.ask r next) s = ⟨r, (a.answer r s).1⟩ :: xs := by
  unfold exchanges
  rw [Routine.exchanges]
  rcases a.answer r s with ⟨_ | x, t⟩
  · exact ⟨[], rfl⟩
  · exact ⟨_, rfl⟩

/-- A request changes the session if it is a report. -/
theorem session_request (r : Request f) (s : Line × World ω) :
    (a.answer r s).2.2.session = f.afterReport^[if r.isReport then 1 else 0] s.2.session := by
  cases hr : r.isReport with
  | false => exact a.session_answer hr s
  | true =>
    cases r with
    | complete success message => rfl
    | look | send | download | fileSize => cases hr

/-- The session changes with the reports only. -/
theorem session_run (routine : Routine ω f α) (s : Line × World ω) :
    (routine.run a.answer noted s).2.2.session = f.afterReport^[reports (a.exchanges routine s)] s.2.session := by
  unfold exchanges
  induction routine generalizing s with
  | done x => rfl
  | breakdown => rfl
  | note n next ih => exact ih (noted n s)
  | ask r next ih =>
    have hsession := a.session_request r s
    rw [Routine.run, Routine.exchanges]
    generalize a.answer r s = y at hsession
    obtain ⟨x | x, t⟩ := y
    · rw [reports_cons]
      exact hsession.trans (by simp [reports])
    · rw [reports_cons, Function.iterate_add_apply, ← hsession]
      exact ih x t

/-- A look sees the session as the reports before it have left it. -/
theorem look_run (routine : Routine ω f α) (s : Line × World ω) {before after : List (Exchange f)} {x : Exchange f}
    (h : a.exchanges routine s = before ++ x :: after) (hx : x.request = .look) :
    x = ⟨.look, some (f.view (f.afterReport^[reports before] s.2.session))⟩ := by
  induction routine generalizing s before with
  | done y => simp [exchanges, Routine.exchanges] at h
  | breakdown => simp [exchanges, Routine.exchanges] at h
  | note n next ih => exact ih (noted n s) h
  | ask r next ih =>
    cases before with
    | nil =>
      obtain ⟨xs, hxs⟩ := a.exchanges_ask r next s
      rw [hxs] at h
      obtain ⟨rfl, -⟩ := List.cons.inj h
      obtain rfl : r = .look := hx
      rfl
    | cons y before =>
      have hsession := a.session_request r s
      unfold exchanges at h ih
      rw [Routine.exchanges] at h
      generalize a.answer r s = z at h hsession
      obtain ⟨z | z, t⟩ := z
      · simp at h
      · obtain ⟨rfl, hrest⟩ := List.cons.inj h
        rw [reports_cons, Function.iterate_add_apply, ← hsession]
        exact ih z t hrest

end Agent

/-! ## Commands -/

/-- The session that a command begins in. -/
def OrchestratorFrame.begun (frame : OrchestratorFrame) (s : Session) : Session :=
  match frame.body, Action.ofCode frame.action with
  | some (.execution e), .backup => { s with backupName := e.backupName }
  | some (.execution e), .restore => ⟨e.backupName, e.fragments, e.version.getD .unknown⟩
  | some (.preparation p), .backup => { s with backupName := p.backupName }
  | some (.preparation p), .restore => ⟨p.backupName, p.fragments, p.version.getD .unknown⟩
  | _, _ => s

/-- The session that a command leaves once it is reported: after a preparation the one it began in, after a backup one
without a name, and else an empty one. A frame that gives no command leaves the session as it was. -/
def OrchestratorFrame.left (frame : OrchestratorFrame) (s : Session) : Session :=
  match frame.body, Action.ofCode frame.action with
  | some (.execution _), .backup | some .postActions, .backup | some .cancel, .backup => { s with backupName := "" }
  | some (.execution _), .restore | some .postActions, .restore | some .cancel, _ => {}
  | some (.preparation _), _ => frame.begun s
  | _, _ => s

theorem session_of_command? {b : Behavior ω} {frame : OrchestratorFrame} {s : Session} {c : Command ω}
    (h : b.command? frame s = some c) : c.session = frame.begun s ∧ c.facade.afterReport c.session = frame.left s := by
  have hcalls := Behavior.calls_of_command? h
  unfold OrchestratorFrame.left OrchestratorFrame.begun
  generalize frame.body = body, Action.ofCode frame.action = action at hcalls
  cases hcalls with
  | cancelAction action => cases action <;> exact ⟨rfl, rfl⟩
  | executeBackup | executeRestore | prepareForBackup | prepareForRestore | postBackup | postRestore =>
    exact ⟨rfl, rfl⟩

theorem left_of_command?_eq_none {b : Behavior ω} {frame : OrchestratorFrame} {s : Session}
    (h : b.command? frame s = none) : frame.left s = s := by
  unfold Behavior.command? at h
  unfold OrchestratorFrame.left OrchestratorFrame.begun
  generalize frame.body = body, Action.ofCode frame.action = action at h
  cases body with
  | none => rfl
  | some body => cases body <;> cases action <;> first | rfl | cases h

namespace Agent

/-- The routine that a frame calls for, if it calls for one, comes to its end and makes one report. -/
def ReportsOnce (a : Agent) (b : Behavior ω) (frame : OrchestratorFrame) (s : Line × World ω) : Prop :=
  ∀ c, b.command? frame s.2.session = some c →
    (a.attempt c.routine (inSession s c.session)).1 = some () ∧
      reports (a.exchanges c.routine (inSession s c.session)) = 1

theorem ReportsOnce.session {a : Agent} {b : Behavior ω} {frame : OrchestratorFrame} {s : Line × World ω}
    (h : a.ReportsOnce b frame s) : (a.handle b frame s).2.session = frame.left s.2.session := by
  rw [a.handle_eq]
  cases hc : b.command? frame s.2.session with
  | none => exact (left_of_command?_eq_none hc).symm
  | some c =>
    obtain ⟨hends, hreports⟩ := h c hc
    have hsession := a.session_run c.routine (inSession s c.session)
    rw [hreports] at hsession
    dsimp only
    rw [a.follow_eq]
    change (a.attempt c.routine (inSession s c.session)).2.2.session = _ at hsession
    generalize a.attempt c.routine (inSession s c.session) = r at hends hsession
    obtain ⟨u, t⟩ := r
    obtain rfl : u = some () := hends
    exact hsession.trans (session_of_command? hc).2

/-- An agent deals with a row of frames, and between two of them anything may become of its line. -/
inductive Serves (a : Agent) : World ω → List (Behavior ω × OrchestratorFrame) → World ω → Prop
  | nil (w : World ω) : Serves a w [] w
  | cons {w w' : World ω} {b : Behavior ω} {frame : OrchestratorFrame} {xs : List (Behavior ω × OrchestratorFrame)}
    (l : Line) (h : a.ReportsOnce b frame (l, w)) (hs : Serves a (a.handle b frame (l, w)).2 xs w') :
    Serves a w ((b, frame) :: xs) w'

/-- A row of frames leaves the session that the frames leave, one after the other. -/
theorem Serves.session {a : Agent} {w w' : World ω} {xs : List (Behavior ω × OrchestratorFrame)}
    (h : a.Serves w xs w') : w'.session = xs.foldl (fun s x => x.2.left s) w.session := by
  induction h with
  | nil w => rfl
  | cons l h hs ih => rw [ih, h.session, List.foldl_cons]

/-- **What a command does to the session.** An agent deals with any frame in any session, on a line that may as well be
closed, and the routine that the frame calls for, if it calls for one, comes to its end after one report. Then the
session becomes what the frame leaves of it, whether the report has gone out or not. Along the routine every look before
the report sees the session that the command began in, and every look after it the one that is left. -/
theorem session_handle (a : Agent) (b : Behavior ω) (frame : OrchestratorFrame) (s : Line × World ω)
    (h : a.ReportsOnce b frame s) :
    (a.handle b frame s).2.session = frame.left s.2.session ∧
      ∀ (c : Command ω) (before after : List (Exchange c.facade)) (x : Exchange c.facade),
        b.command? frame s.2.session = some c →
        a.exchanges c.routine (inSession s c.session) = before ++ x :: after → x.request = .look →
        x = ⟨.look, some (c.facade.view
          (if reports before = 0 then frame.begun s.2.session else frame.left s.2.session))⟩ := by
  refine ⟨h.session, ?_⟩
  intro c before after x hc hxs hx
  obtain ⟨hbegun, hleft⟩ := session_of_command? hc
  have hlook := a.look_run c.routine (inSession s c.session) hxs hx
  -- there is one report in all, and a look is none
  have hle : reports before ≤ 1 := by
    rw [← (h c hc).2, hxs, reports_append]
    exact Nat.le_add_right _ _
  obtain hzero | hone : reports before = 0 ∨ reports before = 1 := by omega
  · rw [hzero] at hlook
    rw [if_pos hzero, ← hbegun]
    exact hlook
  · rw [hone] at hlook
    rw [if_neg (by omega), ← hleft]
    exact hlook

/-- A backup of which the routine looks, reports on a closed line, where nothing goes out, and looks again. -/
theorem session_handle_closed :
    let a : Agent := { identity := { agentId := "A", scope := "", version := {}, apiVersion := "4" }, chunkSize := 4 }
    let b : Behavior String := {
      registration := default
      executeBackup := .ask .look fun name => .note name (.ask (.complete true "") fun _ => .ask .look fun _ => .done ())
      executeRestore := .breakdown }
    let w : World String :=
      { session := { backupName := "weekly", fragments := [{ id := "A_1" }] }, tree := .ofWork .root }
    let l := (Line.settle (a.handle b) ((a.registrate (.ofPlans 3 [{}] {})).1, w)).1.close
    let frame : OrchestratorFrame := { action := 1, body := some (.execution { backupName := "nightly" }) }
    a.ReportsOnce b frame (l, w) ∧ (a.report true "" .backup l).1 = .error .streamClosed ∧
      (a.handle b frame (l, w)).2.session = { fragments := [{ id := "A_1" }] } ∧
      a.exchanges b.executeBackup (inSession (l, w) { w.session with backupName := "nightly" }) =
        [⟨.look, some "nightly"⟩, ⟨.complete true "", some (.error .streamClosed)⟩, ⟨.look, some ""⟩] := by
  intro a b w l frame
  have hc : b.command? frame w.session =
      some ⟨.backup, { w.session with backupName := "nightly" }, b.executeBackup⟩ := rfl
  have hreports : a.ReportsOnce b frame (l, w) := by
    intro c hc'
    obtain rfl := Option.some.inj (hc.symm.trans hc')
    exact ⟨by decide +kernel, by decide +kernel⟩
  have hsession := (session_handle a b frame (l, w) hreports).1
  exact ⟨hreports, by decide +kernel, hsession, rfl⟩

end Agent

end Custodian
