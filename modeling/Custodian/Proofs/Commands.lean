import Custodian.Proofs.OpenCall

/-!
# Following commands

* `Behavior.command?` : the command that a frame gives; `calls_of_command?` : which command that is; `handle_eq` : an
  agent follows it and does nothing else;
* `Routine.run_map` : requests that are answered alike lead to the same end;
* `Agent.respond` : what an agent says to a frame on a call that takes everything, and what it leaves of its world;
  `says_handle` : there it says and leaves just that;
* `Agent.attend` : an agent at work, whose behavior may be another for each frame; `attend_eq` : on an open call
  all that it says to the frames has gone out; `settle_eq_attend` : frames may as well come all at once.
-/

namespace Custodian

set_option autoImplicit false

variable {ω : Type}

/-! ## Commands -/

/-- A routine to be followed, what it is for, and the session that it begins in. -/
structure Command (ω : Type) where
  facade : Facade
  session : Session
  routine : Routine ω facade Unit

/-- The command that a frame gives, if it gives one. -/
def Behavior.command? (b : Behavior ω) (frame : OrchestratorFrame) (s : Session) : Option (Command ω) :=
  match frame.body, Action.ofCode frame.action with
  | some (.execution e), .backup => some ⟨.backup, s.startBackup e.backupName, b.executeBackup⟩
  | some (.execution e), .restore => some ⟨.restore, .startRestore e, b.executeRestore⟩
  | some (.preparation p), .backup => some ⟨.stage .preparation .backup, s.startBackup p.backupName, b.prepareForBackup⟩
  | some (.preparation p), .restore =>
    some ⟨.stage .preparation .restore, .startRestore p.toExecution, b.prepareForRestore⟩
  | some .postActions, .backup => some ⟨.stage .postActions .backup, s, b.postBackup⟩
  | some .postActions, .restore => some ⟨.stage .postActions .restore, s, b.postRestore⟩
  | some .cancel, action => some ⟨.stage .cancel action, s, b.cancelAction action⟩
  | _, _ => none

/-- Whether a frame gives a command: to execute, prepare or complete a backup or a restore, or to cancel anything. -/
def OrchestratorFrame.isCommand (frame : OrchestratorFrame) : Bool :=
  match frame.body with
  | some (.execution _) | some (.preparation _) | some .postActions =>
    Action.ofCode frame.action ∈ [Action.backup, Action.restore]
  | some .cancel => true
  | some (.acknowledge _) | none => false

theorem Behavior.isSome_command? (b : Behavior ω) (frame : OrchestratorFrame) (s : Session) :
    (b.command? frame s).isSome = frame.isCommand := by
  unfold command? OrchestratorFrame.isCommand
  generalize Action.ofCode frame.action = action
  cases frame.body with
  | none => rfl
  | some body => cases body <;> cases action <;> rfl

/-- Which command a body and an action call for. -/
inductive Behavior.Calls (b : Behavior ω) (s : Session) : Option OrchestratorBody → Action → Command ω → Prop where
  | executeBackup (e : Execution) :
    Calls b s (some (.execution e)) .backup ⟨.backup, s.startBackup e.backupName, b.executeBackup⟩
  | executeRestore (e : Execution) :
    Calls b s (some (.execution e)) .restore ⟨.restore, .startRestore e, b.executeRestore⟩
  | prepareForBackup (p : Preparation) :
    Calls b s (some (.preparation p)) .backup
      ⟨.stage .preparation .backup, s.startBackup p.backupName, b.prepareForBackup⟩
  | prepareForRestore (p : Preparation) :
    Calls b s (some (.preparation p)) .restore
      ⟨.stage .preparation .restore, .startRestore p.toExecution, b.prepareForRestore⟩
  | postBackup : Calls b s (some .postActions) .backup ⟨.stage .postActions .backup, s, b.postBackup⟩
  | postRestore : Calls b s (some .postActions) .restore ⟨.stage .postActions .restore, s, b.postRestore⟩
  | cancelAction (action : Action) :
    Calls b s (some .cancel) action ⟨.stage .cancel action, s, b.cancelAction action⟩

theorem Behavior.calls_of_command? {b : Behavior ω} {frame : OrchestratorFrame} {s : Session} {c : Command ω}
    (h : b.command? frame s = some c) : b.Calls s frame.body (Action.ofCode frame.action) c := by
  unfold command? at h
  split at h <;> cases h
  all_goals
    simp only [*]
    constructor

theorem Behavior.Calls.action_eq {b : Behavior ω} {s : Session} {body : Option OrchestratorBody} {action : Action}
    {c : Command ω} (h : b.Calls s body action c) : c.facade.action = action := by
  cases h <;> rfl

/-- An agent follows the command that a frame gives; without one nothing changes. -/
theorem Agent.handle_eq (a : Agent) (b : Behavior ω) (frame : OrchestratorFrame) (s : Line × World ω) :
    a.handle b frame s =
      match b.command? frame s.2.session with
      | some c => a.follow c.routine (inSession s c.session)
      | none => s := by
  unfold handle Behavior.command?
  generalize Action.ofCode frame.action = action
  cases frame.body with
  | none => rfl
  | some body => cases body <;> cases action <;> rfl

theorem Behavior.command?_eq_none (b : Behavior ω) {frame : OrchestratorFrame} (h : frame.isCommand = false)
    (s : Session) : b.command? frame s = none := by
  rw [← b.isSome_command? frame s] at h
  exact Option.not_isSome_iff_eq_none.1 (by simp [h])

theorem Agent.handle_of_not_isCommand (a : Agent) (b : Behavior ω) {frame : OrchestratorFrame}
    (h : frame.isCommand = false) (s : Line × World ω) : a.handle b frame s = s := by
  rw [a.handle_eq, b.command?_eq_none h]

/-! ## Routines -/

/-- Requests that are answered alike from states that belong together lead to ends that belong together. -/
theorem Routine.run_map {α σ τ : Type} {f : Facade} (φ : σ → τ)
    {answer : (r : Request f) → σ → Option r.Answer × σ} {answer' : (r : Request f) → τ → Option r.Answer × τ}
    {noted : ω → σ → σ} {noted' : ω → τ → τ}
    (ha : ∀ r s, answer' r (φ s) = ((answer r s).1, φ (answer r s).2)) (hn : ∀ n s, noted' n (φ s) = φ (noted n s))
    (routine : Routine ω f α) (s : σ) :
    routine.run answer' noted' (φ s) = ((routine.run answer noted s).1, φ (routine.run answer noted s).2) := by
  induction routine generalizing s with
  | done a => rfl
  | breakdown => rfl
  | note n next ih => rw [run, run, hn, ih]
  | ask r next ih =>
    rw [run, run, ha]
    rcases answer r s with ⟨_ | a, t⟩
    · rfl
    · exact ih a t

namespace Agent

variable (a : Agent)

/-- Keeps a note of a routine. -/
def noted {σ : Type} (n : ω) (s : σ × World ω) : σ × World ω := (s.1, { s.2 with notes := s.2.notes.push n })

/-- Follows a routine as far as it goes. -/
def attempt {f : Facade} (routine : Routine ω f Unit) (s : Line × World ω) : Option Unit × (Line × World ω) :=
  routine.run a.answer noted s

/-- The report on a routine for `action` that broke down. -/
def failure (action : Action) : AgentFrame := a.identity.stageComplete false breakdownMessage action

theorem follow_eq {f : Facade} (routine : Routine ω f Unit) (s : Line × World ω) :
    a.follow routine s =
      match a.attempt routine s with
      | (some _, s) => s
      | (none, l, w) =>
        ((l.send (a.failure f.action)).1, { w with session := afterBreakdown f.action w.session }) := by
  unfold follow
  change (match a.attempt routine s with | (some _, s) => s | (none, l, w) => _) = _
  rcases a.attempt routine s with ⟨_ | u, l, w⟩
  · dsimp only [report]
    split <;> simp_all [failure]
  · rfl

/-! ## What is said -/

/-- A request on a call that takes every frame: what is said is kept, and a report is said to have gone out. -/
def reply {f : Facade} (r : Request f) (s : List AgentFrame × World ω) :
    Option r.Answer × (List AgentFrame × World ω) :=
  match f, r with
  | f, .look => (some (f.view s.2.session), s)
  | f, .complete success message =>
    (some (.ok ()), s.1 ++ [a.identity.stageComplete success message f.action],
      { s.2 with session := f.afterReport s.2.session })
  | _, .send b => let (r, w) := a.sendBackup b s.2; (uploadAnswer r, s.1, w)
  | _, .download b dir => let (r, w) := a.download b dir s.2; (some r, s.1, w)
  | _, .fileSize path => (some (s.2.tree.size path), s)

/-- What comes of a routine on a call that takes every frame: whether it comes to its end, what is said, and what is
left of the world. -/
def course {f : Facade} (routine : Routine ω f Unit) (w : World ω) : Option Unit × (List AgentFrame × World ω) :=
  routine.run a.reply noted ([], w)

/-- What an agent says to a command on such a call, and what it leaves of its world. -/
def obey (c : Command ω) (w : World ω) : List AgentFrame × World ω :=
  match a.course c.routine { w with session := c.session } with
  | (some _, said, w) => (said, w)
  | (none, said, w) =>
    (said ++ [a.failure c.facade.action], { w with session := afterBreakdown c.facade.action w.session })

/-- What an agent says to a frame on such a call, and what it leaves of its world. -/
def respond (b : Behavior ω) (frame : OrchestratorFrame) (w : World ω) : List AgentFrame × World ω :=
  match b.command? frame w.session with
  | some c => a.obey c w
  | none => ([], w)

theorem respond_of_not_isCommand (b : Behavior ω) {frame : OrchestratorFrame} (h : frame.isCommand = false)
    (w : World ω) : a.respond b frame w = ([], w) := by
  rw [respond, b.command?_eq_none h]

variable {l : Line}

theorem answer_eq_reply {f : Facade} (h : l.Accepts) (r : Request f) (s : List AgentFrame × World ω) :
    a.answer r (l.post s.1, s.2) = ((a.reply r s).1, l.post (a.reply r s).2.1, (a.reply r s).2.2) := by
  cases r with
  | complete success message =>
    have hsend := Line.send_eq_post (h.post s.1) (a.identity.isRegister_stageComplete success message f.action)
    simp [answer, reply, report, hsend]
  | look | send | download | fileSize => rfl

theorem attempt_eq {f : Facade} (h : l.Accepts) (routine : Routine ω f Unit) (w : World ω) :
    a.attempt routine (l, w) =
      ((a.course routine w).1, l.post (a.course routine w).2.1, (a.course routine w).2.2) := by
  have hrun : a.attempt routine (l.post [], w) =
      ((a.course routine w).1, l.post (a.course routine w).2.1, (a.course routine w).2.2) :=
    routine.run_map (fun s : List AgentFrame × World ω => (l.post s.1, s.2)) (a.answer_eq_reply h) (fun _ _ => rfl)
      ([], w)
  rwa [Line.post_nil] at hrun

theorem says_handle (b : Behavior ω) : Line.Handler.Says (a.handle b) (a.respond b) := by
  intro frame l w h
  rw [handle_eq, respond]
  cases b.command? frame w.session with
  | none => simp
  | some c =>
    have hattempt := a.attempt_eq h c.routine { w with session := c.session }
    simp only [follow_eq, obey, inSession, hattempt]
    rcases a.course c.routine { w with session := c.session } with ⟨_ | u, said, w'⟩
    · have hsend := Line.send_eq_post (h.post said)
        (a.identity.isRegister_stageComplete false breakdownMessage c.facade.action)
      simp [failure, hsend]
    · rfl

/-! ## At work -/

/-- An agent at work: it reads one frame after the other, and its behavior may be another for each of them. -/
def attend : List (Behavior ω × OrchestratorFrame) → Line × World ω → Line × World ω
  | [], s => s
  | (b, frame) :: rest, s => attend rest (Line.settle (a.handle b) (s.1.feed [.ok frame], s.2))

theorem attend_append (xs ys : List (Behavior ω × OrchestratorFrame)) (s : Line × World ω) :
    a.attend (xs ++ ys) s = a.attend ys (a.attend xs s) := by
  induction xs generalizing s with
  | nil => rfl
  | cons x xs ih => exact ih _

/-- What an agent says to a row of frames. -/
def respondAll : List (Behavior ω × OrchestratorFrame) → World ω → List AgentFrame × World ω :=
  answersOf fun x => a.respond x.1 x.2

theorem attend_eq (h : l.Attentive) (xs : List (Behavior ω × OrchestratorFrame)) (w : World ω) :
    a.attend xs (l, w) = ((l.served xs.length).post (a.respondAll xs w).1, (a.respondAll xs w).2) := by
  induction xs generalizing l w with
  | nil => simp [attend, respondAll, answersOf, Line.served]
  | cons x xs ih =>
    have hframe : Line.settle (a.handle x.1) (l.feed [.ok x.2], w) =
        ((l.served 1).post (a.respond x.1 x.2 w).1, (a.respond x.1 x.2 w).2) := by
      simpa [answersOf] using Line.settle_feed (a.says_handle x.1) h [x.2] w
    rw [attend, hframe, ih ((h.served 1).post _), Line.served_post, Line.served_served, Line.post_post]
    rfl

theorem settle_eq_attend (h : l.Attentive) (b : Behavior ω) (frames : List OrchestratorFrame) (w : World ω) :
    Line.settle (a.handle b) (l.feed (frames.map .ok), w) = a.attend (frames.map (b, ·)) (l, w) := by
  rw [Line.settle_feed (a.says_handle b) h, attend_eq a h, List.length_map, respondAll, answersOf_map]

end Agent

end Custodian
