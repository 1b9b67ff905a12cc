import Custodian.Proofs.Breakdown
import Custodian.Reference.Behavior

/-!
# One answer for each command

* `Routine.Silent`, `Routine.ReportsOnce` : routines that report nothing, and routines that report once and then end,
  whatever they are told; `Silent.bind`, `Silent.bind_reportsOnce` : how they go together;
* `obey_of_reportsOnce` : a command with such a routine is answered once, even if the routine breaks down before it
  reports;
* `Reference.reportsOnce_of_calls` : the reference agent reports once on every command;
* `Reference.one_answer_per_command` : so it answers each command of a row of frames once, and nothing else.
-/

namespace Custodian

set_option autoImplicit false

variable {ω α β : Type} {f : Facade}

/-! ## Routines that report once -/

/-- Whether a request is a report. -/
def Request.isReport : Request f → Bool
  | .complete _ _ => true
  | _ => false

namespace Routine

/-- A routine that reports nothing. -/
inductive Silent : Routine ω f α → Prop where
  | done (a : α) : Silent (.done a)
  | breakdown : Silent .breakdown
  | note (n : ω) {next : Routine ω f α} (h : Silent next) : Silent (.note n next)
  | ask {r : Request f} {next : r.Answer → Routine ω f α} (hr : r.isReport = false) (h : ∀ x, Silent (next x)) :
    Silent (.ask r next)

/-- A routine that ends with its only report, unless it breaks down before. -/
inductive ReportsOnce : Routine ω f Unit → Prop where
  | report (success : Bool) (message : String) : ReportsOnce (.report success message)
  | breakdown : ReportsOnce .breakdown
  | note (n : ω) {next : Routine ω f Unit} (h : ReportsOnce next) : ReportsOnce (.note n next)
  | ask {r : Request f} {next : r.Answer → Routine ω f Unit} (hr : r.isReport = false)
    (h : ∀ x, ReportsOnce (next x)) : ReportsOnce (.ask r next)

theorem Silent.request {r : Request f} (hr : r.isReport = false) : Silent (request r : Routine ω f r.Answer) :=
  .ask hr .done

theorem Silent.bind {x : Routine ω f α} {k : α → Routine ω f β} (hx : x.Silent) (hk : ∀ a, (k a).Silent) :
    (x >>= k).Silent := by
  induction hx with
  | done a => exact hk a
  | breakdown => exact .breakdown
  | note n _ ih => exact .note n ih
  | ask hr _ ih => exact .ask hr ih

theorem Silent.bind_reportsOnce {x : Routine ω f α} {k : α → Routine ω f Unit} (hx : x.Silent)
    (hk : ∀ a, (k a).ReportsOnce) : (x >>= k).ReportsOnce := by
  induction hx with
  | done a => exact hk a
  | breakdown => exact .breakdown
  | note n _ ih => exact .note n ih
  | ask hr _ ih => exact .ask hr ih

end Routine

namespace Agent

variable (a : Agent)

theorem said_reply {r : Request f} (hr : r.isReport = false) (s : List AgentFrame × World ω) :
    (a.reply r s).2.1 = s.1 := by
  cases r with
  | complete success message => cases hr
  | look | send | download | fileSize => rfl

/-- What is said along a routine that reports once: one report if it comes to its end, and nothing if it does not. -/
theorem said_run_of_reportsOnce {routine : Routine ω f Unit} (h : routine.ReportsOnce)
    (s : List AgentFrame × World ω) :
    let r := routine.run a.reply noted s
    (∃ x, r.1 = some () ∧ r.2.1 = s.1 ++ [x] ∧ a.Reports f.action x) ∨ (r.1 = none ∧ r.2.1 = s.1) := by
  induction h generalizing s with
  | report success message => exact .inl ⟨_, rfl, rfl, success, message, rfl⟩
  | breakdown => exact .inr ⟨rfl, rfl⟩
  | note n _ ih => exact ih _
  | @ask r next hr _ ih =>
    have hsaid := a.said_reply hr s
    simp only [Routine.run]
    generalize a.reply r s = x at hsaid
    rcases x with ⟨_ | answer, t⟩
    · exact .inr ⟨rfl, hsaid⟩
    · -- nothing has been said so far, so all that is said comes from the rest
      have hnext := ih answer t
      rw [hsaid] at hnext
      exact hnext

theorem obey_of_reportsOnce {c : Command ω} (h : c.routine.ReportsOnce) (w : World ω) :
    ∃ x, (a.obey c w).1 = [x] ∧ a.Reports c.facade.action x := by
  have hrun := a.said_run_of_reportsOnce h ([], { w with session := c.session })
  unfold obey course
  generalize c.routine.run a.reply _ _ = r at hrun
  obtain ⟨u, said, w'⟩ := r
  rcases hrun with ⟨x, rfl, rfl, hx⟩ | ⟨rfl, rfl⟩
  · exact ⟨x, rfl, hx⟩
  · exact ⟨_, rfl, a.reports_failure _⟩

end Agent

/-! ## The reference agent -/

namespace Reference

open Routine

/-- An attempt that reports nothing, whether it fails or not. -/
def Attempt.Silent (x : Attempt ω f α) : Prop := Routine.Silent x.run

namespace Attempt

theorem Silent.pure (a : α) : Silent (pure a : Attempt ω f α) := .done _

theorem Silent.throw (e : List String) : Silent (throw e : Attempt ω f α) := .done _

theorem Silent.request {r : Request f} (hr : r.isReport = false) :
    Silent (ExceptT.lift (Routine.request r) : Attempt ω f r.Answer) :=
  .ask hr fun _ => .done _

theorem Silent.bind {x : Attempt ω f α} {k : α → Attempt ω f β} (hx : Silent x) (hk : ∀ a, Silent (k a)) :
    Silent (x >>= k) := by
  refine Routine.Silent.bind hx fun r => ?_
  cases r with
  | ok a => exact hk a
  | error e => exact .done _

end Attempt

theorem silent_fragmentsFrom (c : Config) (n : Nat) (files : List FragmentFile) :
    Attempt.Silent (fragmentsFrom c n files : Attempt ω f _) := by
  induction files generalizing n with
  | nil => exact .pure _
  | cons file files ih =>
    refine .bind (.request rfl) fun size => ?_
    cases size with
    | error e => exact .throw _
    | ok size => exact .bind (ih (n + 1)) fun rest => .pure _

theorem silent_sendAll (bs : List BackupFragment) : Attempt.Silent (sendAll bs : Attempt ω .backup Unit) := by
  induction bs with
  | nil => exact .pure _
  | cons b bs ih =>
    refine .bind (.request rfl) fun sent => ?_
    cases sent with
    | error e => exact .throw _
    | ok _ => exact ih

theorem silent_downloadAll (dir : String) (bs : List Fragment) :
    Attempt.Silent (downloadAll dir bs : Attempt ω .restore Unit) := by
  induction bs with
  | nil => exact .pure _
  | cons b bs ih =>
    refine .bind (.request rfl) fun outcome => ?_
    cases outcome with
    | error e => exact .throw _
    | ok o =>
      dsimp only
      split_ifs
      · exact .throw _
      · exact .throw _
      · exact ih

theorem reportsOnce_executeBackup (c : Config) : (executeBackup c : Routine ω .backup Unit).ReportsOnce := by
  refine Silent.bind_reportsOnce (.request rfl) fun name => ?_
  refine Silent.bind_reportsOnce (Attempt.Silent.bind (silent_fragmentsFrom c 1 c.files) silent_sendAll) fun r => ?_
  cases r with
  | ok _ => exact .report _ _
  | error e => exact .report _ _

theorem reportsOnce_executeRestore (c : Config) : (executeRestore c : Routine ω .restore Unit).ReportsOnce := by
  refine Silent.bind_reportsOnce (.request rfl) fun session => ?_
  split_ifs
  · refine Silent.bind_reportsOnce (silent_downloadAll c.downloadDir session.fragments) fun r => ?_
    cases r with
    | ok _ => exact .report _ _
    | error e => exact .report _ _
  · exact .report _ _

theorem reportsOnce_of_calls {c : Config} {s : Session} {body : Option OrchestratorBody} {action : Action}
    {command : Command ω} (h : (behavior c).Calls s body action command) : command.routine.ReportsOnce := by
  cases h with
  | executeBackup e => exact reportsOnce_executeBackup c
  | executeRestore e => exact reportsOnce_executeRestore c
  | prepareForBackup | prepareForRestore | postBackup | postRestore | cancelAction => exact .report _ _

variable (a : Agent)

theorem respond_of_isCommand (c : Config) {frame : OrchestratorFrame} (h : frame.isCommand = true) (w : World ω) :
    ∃ x, (a.respond (behavior c) frame w).1 = [x] ∧ a.Reports (Action.ofCode frame.action) x := by
  rw [← (behavior c).isSome_command? frame w.session] at h
  obtain ⟨command, hc⟩ := Option.isSome_iff_exists.1 h
  have hcalls := Behavior.calls_of_command? hc
  rw [Agent.respond, hc, ← hcalls.action_eq]
  exact a.obey_of_reportsOnce (reportsOnce_of_calls hcalls) w

theorem answers_filter (c : Config) (frames : List OrchestratorFrame) (w : World ω) :
    answersOf (a.respond (behavior c)) (frames.filter OrchestratorFrame.isCommand) w =
      answersOf (a.respond (behavior c)) frames w := by
  induction frames generalizing w with
  | nil => rfl
  | cons frame frames ih =>
    cases h : frame.isCommand with
    | true => rw [List.filter_cons_of_pos h, answersOf, answersOf, ih]
    | false =>
      rw [List.filter_cons_of_neg (by simp [h]), answersOf, a.respond_of_not_isCommand _ h, ih, List.nil_append]

theorem forall₂_answers (c : Config) (frames : List OrchestratorFrame) (h : ∀ f ∈ frames, f.isCommand = true)
    (w : World ω) :
    List.Forall₂ (fun frame x => a.Reports (Action.ofCode frame.action) x) frames
      (answersOf (a.respond (behavior c)) frames w).1 := by
  induction frames generalizing w with
  | nil => exact .nil
  | cons frame frames ih =>
    obtain ⟨x, hx, hreports⟩ := respond_of_isCommand a c (h frame List.mem_cons_self) w
    rw [answersOf, hx]
    exact .cons hreports (ih (fun f hf => h f (List.mem_cons_of_mem _ hf)) _)

/-- **One answer for each command.** The reference agent, however configured, reads any row of frames from a call that
stays open and takes all that is sent. What goes out is one report for each frame that gives a command, in their order,
on the action of the frame and in the name of the agent; the call stays open. Frames that give no command change
nothing, neither the line nor the world, and without them the same goes out and the same is left of the world. -/
theorem one_answer_per_command (c : Config) (l : Line) (hl : l.Attentive) (w : World ω)
    (frames : List OrchestratorFrame) :
    let s := Line.settle (a.handle (behavior c)) (l.feed (frames.map .ok), w)
    let commands := frames.filter OrchestratorFrame.isCommand
    let s' := Line.settle (a.handle (behavior c)) (l.feed (commands.map .ok), w)
    (∃ said : List AgentFrame, l.WentOut s.1 said ∧ l.WentOut s'.1 said ∧
      List.Forall₂ (fun frame x => ∃ success message, x = ⟨(Action.ofCode frame.action).code, stageCompleteType,
        some (.stageComplete ⟨success, message, a.identity.agentId⟩)⟩) commands said) ∧
      s.2 = s'.2 ∧ s.1.Attentive ∧
      ∀ frame : OrchestratorFrame, frame.isCommand = false →
        ∀ (b : Behavior ω) (t : Line × World ω), a.handle b frame t = t := by
  intro s commands s'
  have hs : s = _ := Line.settle_feed (a.says_handle (behavior c)) hl frames w
  have hs' : s' = _ := Line.settle_feed (a.says_handle (behavior c)) hl commands w
  have hfilter : answersOf (a.respond (behavior c)) commands w = answersOf (a.respond (behavior c)) frames w :=
    answers_filter a c frames w
  rw [hfilter] at hs'
  rw [hs, hs']
  refine ⟨⟨(answersOf (a.respond (behavior c)) frames w).1, ?_, ?_, ?_⟩, rfl, ?_, ?_⟩
  · exact Line.wentOut_served_post l frames.length _
  · exact Line.wentOut_served_post l commands.length _
  · rw [← hfilter]
    exact forall₂_answers a c commands (fun f hf => (List.mem_filter.1 hf).2) w
  · exact (hl.served frames.length).post _
  · exact fun frame h b t => a.handle_of_not_isCommand b h t

/-- A file to be backed up is missing, and neither what is prepared nor what is cancelled is a known action. -/
theorem one_answer_per_command_missing_file :
    let a : Agent := { identity := { agentId := "A", scope := "", version := {}, apiVersion := "4" }, chunkSize := 4 }
    let c : Config := { files := [{ path := "missing" }] }
    let w : World Unit := { tree := .ofWork .root }
    let l := (Line.settle (a.handle (behavior c)) ((a.registrate (.ofPlans 3 [{}] {})).1, w)).1
    let backup : OrchestratorFrame := { action := 1, body := some (.execution { backupName := "nightly" }) }
    let unknown : OrchestratorFrame := { action := 9, body := some (.preparation {}) }
    let cancel : OrchestratorFrame := { action := 7, body := some .cancel }
    let s := Line.settle (a.handle (behavior c)) (l.feed ([backup, unknown, cancel].map .ok), w)
    (∃ x y, l.WentOut s.1 [x, y] ∧ a.Reports .backup x ∧ a.Reports .register y) ∧ s.1.Attentive := by
  intro a c w l backup unknown cancel s
  have hl : l.Attentive := (a.attentive_of_registrate 3 [] {} (a.handle (behavior c)) w).1
  obtain ⟨⟨said, hout, -, hall⟩, -, hopen, -⟩ := one_answer_per_command a c l hl w [backup, unknown, cancel]
  have hcommands : [backup, unknown, cancel].filter OrchestratorFrame.isCommand = [backup, cancel] := by decide
  rw [hcommands] at hall
  have hbackup : Action.ofCode backup.action = .backup := by decide
  have hcancel : Action.ofCode cancel.action = .register := by decide
  obtain _ | ⟨hx, _ | ⟨hy, _ | _⟩⟩ := hall
  rw [hbackup] at hx
  rw [hcancel] at hy
  exact ⟨⟨_, _, hout, hx, hy⟩, hopen⟩

end Reference

end Custodian
