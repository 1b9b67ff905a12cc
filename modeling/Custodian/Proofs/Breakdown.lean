import Custodian.Proofs.Commands

/-!
# A routine breaks down

* `Agent.Reports` : the frames that report on an action; `reports_course` : whatever a routine does, all that it says
  are reports on the action of its command;
* `wentOut_attend` : what goes out for a row of frames depends on the world alone, not on what went before on the line;
* `breakdown_isolated` : a breakdown costs one report and the session, and nothing else.
-/

namespace Custodian

set_option autoImplicit false

variable {ω : Type}

/-! ## What holds along a routine -/

theorem Routine.run_preserves {α σ : Type} {f : Facade} {P : σ → Prop}
    {answer : (r : Request f) → σ → Option r.Answer × σ} {noted : ω → σ → σ}
    (ha : ∀ r s, P s → P (answer r s).2) (hn : ∀ n s, P s → P (noted n s)) (routine : Routine ω f α) {s : σ}
    (hs : P s) : P (routine.run answer noted s).2 := by
  induction routine generalizing s with
  | done a => exact hs
  | breakdown => exact hs
  | note n next ih => exact ih (hn n s hs)
  | ask r next ih =>
    have hr := ha r s hs
    rw [run]
    generalize answer r s = x at hr
    rcases x with ⟨_ | a, t⟩
    · exact hr
    · exact ih a hr

namespace Agent

variable (a : Agent)

/-! ## Reports -/

/-- A frame reports the end of a stage of an action in the name of the agent. -/
def Reports (action : Action) (x : AgentFrame) : Prop :=
  ∃ success message, x = ⟨action.code, stageCompleteType, some (.stageComplete ⟨success, message, a.identity.agentId⟩)⟩

theorem reports_failure (action : Action) : a.Reports action (a.failure action) := ⟨false, breakdownMessage, rfl⟩

theorem reports_course {f : Facade} (routine : Routine ω f Unit) (w : World ω) :
    ∀ x ∈ (a.course routine w).2.1, a.Reports f.action x := by
  refine routine.run_preserves (P := fun s : List AgentFrame × World ω => ∀ x ∈ s.1, a.Reports f.action x) ?_ ?_ ?_
  · intro r s hs
    cases r with
    | complete success message =>
      intro x hx
      rcases List.mem_append.1 hx with hx | hx
      · exact hs x hx
      · rw [List.mem_singleton] at hx
        exact ⟨success, message, hx⟩
    | look | send | download | fileSize => exact hs
  · exact fun n s hs => hs
  · exact nofun

/-! ## The frames after a breakdown -/

variable {a} {l l₀ : Line}

theorem wentOut_attend (h : l.Attentive) (h₀ : l₀.Attentive) (xs : List (Behavior ω × OrchestratorFrame))
    (w : World ω) : ∃ (said : List AgentFrame) (w' : World ω),
      l.WentOut (a.attend xs (l, w)).1 said ∧ l₀.WentOut (a.attend xs (l₀, w)).1 said ∧
        (a.attend xs (l, w)).2 = w' ∧ (a.attend xs (l₀, w)).2 = w' ∧ (a.attend xs (l, w)).1.Attentive := by
  rw [a.attend_eq h, a.attend_eq h₀]
  refine ⟨(a.respondAll xs w).1, (a.respondAll xs w).2, ?_, ?_, rfl, rfl, (h.served xs.length).post _⟩
  · exact Line.wentOut_served_post l xs.length _
  · exact Line.wentOut_served_post l₀ xs.length _

/-- What an agent responds if the routine that it follows breaks down: what has been said until then, and the report of
the failure. -/
theorem respond_of_breakdown {w : World ω} {b : Behavior ω} {frame : OrchestratorFrame} {c : Command ω}
    {t : Line × World ω} (h : l.Accepts) (hc : b.command? frame w.session = some c)
    (ht : a.attempt c.routine (l, { w with session := c.session }) = (none, t)) :
    ∃ said w', t = (l.post said, w') ∧ (∀ x ∈ said, a.Reports c.facade.action x) ∧
      a.respond b frame w =
        (said ++ [a.failure c.facade.action], { w' with session := afterBreakdown c.facade.action w'.session }) := by
  have hcourse := a.attempt_eq h c.routine { w with session := c.session }
  have hreports := a.reports_course c.routine { w with session := c.session }
  rcases hx : a.course c.routine { w with session := c.session } with ⟨r, said, w'⟩
  rw [hx, ht] at hcourse
  rw [hx] at hreports
  obtain ⟨rfl, rfl⟩ := Prod.mk.inj hcourse
  refine ⟨said, w', rfl, hreports, ?_⟩
  simp only [respond, hc, obey, hx]

theorem backupName_afterBreakdown (action : Action) (s : Session) : (afterBreakdown action s).backupName = "" := by
  unfold afterBreakdown
  split_ifs <;> rfl

/-- **A breakdown stays where it happens.** An agent at work on an open call has dealt with any row of frames, and the
routine that the next frame calls for breaks down at any point: `t` is what there is at this point. Then what went out
before the breakdown are reports on the action of the frame, and after them goes one more report, of the failure. No
backup is named any more, and of a restore nothing is left in the session; the rest of the world is as it was when the
routine broke down, and the listener waits for the next frame on the same call. For all frames to come the same goes out
and the same is left of the world as on any other open call, on which nothing has broken down, from this session. -/
theorem breakdown_isolated (a : Agent) (l : Line) (w : World ω) (hl : l.Attentive)
    (before later : List (Behavior ω × OrchestratorFrame)) (b : Behavior ω) (frame : OrchestratorFrame) (c : Command ω)
    (t : Line × World ω) (hc : b.command? frame (a.attend before (l, w)).2.session = some c)
    (ht : a.attempt c.routine (inSession (((a.attend before (l, w)).1.event (.received (.ok frame))).1,
      (a.attend before (l, w)).2) c.session) = (none, t)) :
    let s := a.attend before (l, w)
    let s' := a.attend (before ++ [(b, frame)]) (l, w)
    let action := Action.ofCode frame.action
    (∃ said : List AgentFrame, s.1.WentOut t.1 said ∧ ∀ x ∈ said, a.Reports action x) ∧
      t.1.WentOut s'.1
        [⟨action.code, stageCompleteType, some (.stageComplete ⟨false, breakdownMessage, a.identity.agentId⟩)⟩] ∧
      s'.2 = { t.2 with session := s'.2.session } ∧ s'.2.session.backupName = "" ∧
      (action = .restore → s'.2.session = {}) ∧
      s'.1.channel.status = .listening ∧ s'.1.Attentive ∧
      ∀ l₀ : Line, l₀.Attentive → ∃ (said : List AgentFrame) (w' : World ω),
        s'.1.WentOut (a.attend later s').1 said ∧ l₀.WentOut (a.attend later (l₀, s'.2)).1 said ∧
          (a.attend later s').2 = w' ∧ (a.attend later (l₀, s'.2)).2 = w' ∧ (a.attend later s').1.Attentive := by
  intro s s' action
  -- where the agent stands when the frame comes
  obtain ⟨l₁, w₁, hs, h₁⟩ : ∃ l₁ w₁, s = (l₁, w₁) ∧ l₁.Attentive :=
    ⟨_, _, a.attend_eq hl before w, (hl.served _).post _⟩
  have hs' : s' = a.attend [(b, frame)] (l₁, w₁) := by
    rw [← hs]
    exact a.attend_append before [(b, frame)] (l, w)
  change b.command? frame s.2.session = some c at hc
  change a.attempt c.routine (inSession ((s.1.event _).1, s.2) c.session) = (none, t) at ht
  rw [hs] at hc ht
  rw [Line.event_received h₁] at ht
  obtain ⟨said, w₂, rfl, hreports, hrespond⟩ := respond_of_breakdown (h₁.accepts_hear frame) hc ht
  rw [show c.facade.action = action from (Behavior.calls_of_command? hc).action_eq] at hreports hrespond
  replace hs' : s' = ((l₁.served 1).post (said ++ [a.failure action]),
      { w₂ with session := afterBreakdown action w₂.session }) := by
    rw [hs', a.attend_eq h₁]
    simp only [respondAll, answersOf, hrespond, List.append_nil]
    rfl
  have h' : s'.1.Attentive := by
    rw [hs']
    exact (h₁.served 1).post _
  refine ⟨⟨said, ?_, ?_⟩, ?_, ?_, ?_, ?_, h'.status, h', fun l₀ h₀ => ?_⟩
  · rw [hs]
    exact Line.wentOut_post (l₁.hear frame) said
  · exact hreports
  · rw [hs', ← Line.post_post]
    exact Line.wentOut_post ((l₁.served 1).post said) [a.failure action]
  · rw [hs']
  · rw [hs']
    exact backupName_afterBreakdown action w₂.session
  · intro hrestore
    rw [hs', hrestore]
    rfl
  · exact wentOut_attend h' h₀ later s'.2

/-- A restore is reported as done and breaks down after that; what is cancelled next has no known action. -/
theorem breakdown_isolated_after_report :
    let a : Agent := { identity := { agentId := "A", scope := "", version := {}, apiVersion := "4" }, chunkSize := 4 }
    let b : Behavior Unit := {
      registration := default
      executeBackup := .breakdown
      executeRestore := .ask (.complete true "done") fun _ => .breakdown }
    let w : World Unit := { tree := .ofWork .root }
    let l := (Line.settle (a.handle b) ((a.registrate (.ofPlans 3 [{}] {})).1, w)).1
    let prepare : OrchestratorFrame := { action := 1, body := some (.preparation { backupName := "nightly" }) }
    let restore : OrchestratorFrame := { action := 2, body := some (.execution { fragments := [{ id := "A_1" }] }) }
    let cancel : OrchestratorFrame := { action := 7, body := some .cancel }
    let c : Command Unit := ⟨.restore, { fragments := [{ id := "A_1" }] }, b.executeRestore⟩
    ∃ t, a.attempt c.routine (inSession (((a.attend [(b, prepare)] (l, w)).1.event (.received (.ok restore))).1,
        (a.attend [(b, prepare)] (l, w)).2) c.session) = (none, t) ∧
      (a.attend [(b, prepare)] (l, w)).1.WentOut t.1 [a.identity.stageComplete true "done" .restore] ∧
      t.1.WentOut (a.attend ([(b, prepare)] ++ [(b, restore)]) (l, w)).1 [a.failure .restore] ∧
      (a.attend ([(b, prepare)] ++ [(b, restore)]) (l, w)).2.session = {} ∧
      (a.attend ([(b, prepare)] ++ [(b, restore)]) (l, w)).1.channel.status = .listening ∧
      (a.attend [(b, cancel)] (a.attend ([(b, prepare)] ++ [(b, restore)]) (l, w))).1.Attentive := by
  intro a b w l prepare restore cancel c
  have hl : l.Attentive := (a.attentive_of_registrate 3 [] {} (a.handle b) w).1
  have haction : Action.ofCode restore.action = .restore := by decide
  have hc : b.command? restore (a.attend [(b, prepare)] (l, w)).2.session = some c := by
    simp only [Behavior.command?, haction]
    rfl
  generalize hx : a.attempt c.routine (inSession
    (((a.attend [(b, prepare)] (l, w)).1.event (.received (.ok restore))).1,
    (a.attend [(b, prepare)] (l, w)).2) c.session) = x
  have hnone : x.1 = none := by
    rw [← hx]
    decide +kernel
  have hsent : (a.attend [(b, prepare)] (l, w)).1.WentOut x.2.1 [a.identity.stageComplete true "done" .restore] := by
    rw [← hx]
    decide +kernel
  obtain ⟨r, t⟩ := x
  subst hnone
  obtain ⟨-, hfailure, -, -, hsession, hstatus, -, hlater⟩ :=
    breakdown_isolated a l w hl [(b, prepare)] [(b, cancel)] b restore c t hc hx
  rw [haction] at hfailure hsession
  obtain ⟨-, -, -, -, -, -, hcancel⟩ := hlater l hl
  exact ⟨t, rfl, hsent, hfailure, hsession rfl, hstatus, hcancel⟩

end Agent

end Custodian
