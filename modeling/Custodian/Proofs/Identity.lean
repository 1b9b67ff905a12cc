import Custodian.Proofs.Breakdown
import Custodian.Proofs.Channel
import Custodian.Proofs.Incomplete
import Custodian.Proofs.Interleaved
import Custodian.Reference.Behavior

/-!
# Everything is said in the agent's own name

* `Agent.create_eq_ok` : which registrations and settings make an agent;
* `Agent.Says` : what an agent says on its channel;
* `Channel.Holds`, `Interleaved.Holds` : a channel and its calls hold such frames only, whatever happens to them;
* `Agent.Step`, `Agent.Lives` : what can happen to an agent, one thing after the other; `Agent.lives_settle` : a
  listener that goes on is such a row of things;
* `Agent.Honest` : what has been said so far was said in the agent's own name; `Honest.step` : it stays so;
* `Agent.own_name` : so it is for every agent that can be made, through every row of things.
-/

namespace Custodian

set_option autoImplicit false

variable {ω : Type}

/-! ## Making an agent -/

theorem SoftwareVersion.check_eq_ok (v : SoftwareVersion) :
    v.check = .ok () ↔ v.productName ≠ "" ∧ v.productNumber ≠ "" ∧ v.revision ≠ "" ∧ v.productionDate ≠ "" ∧
      v.description ≠ "" ∧ v.kind ≠ "" ∧ v.commercialVersion ≠ "" ∧ v.semanticVersion ≠ "" := by
  have hfind : v.check = .ok () ↔ v.required.find? (fun f => f.2 = "") = none := by
    unfold check
    cases v.required.find? fun f => f.2 = "" <;> simp
  rw [hfind, List.find?_eq_none]
  simp only [required, List.forall_mem_cons, decide_eq_true_eq]
  tauto

theorem Registration.check_eq_ok (r : Registration) :
    r.check = .ok () ↔ Text.isBlank r.agentId = false ∧ r.version.check = .ok () := by
  unfold check
  split_ifs with hblank <;> simp [hblank]

namespace Agent

/-- Which registrations and settings make an agent, and which agent. -/
theorem create_eq_ok (settings : Settings) (r : Registration) (a : Agent) :
    create settings r = .ok a ↔ settings.check = .ok () ∧ r.check = .ok () ∧
      a = ⟨{ r with apiVersion := settings.apiVersion }, settings.chunkSize⟩ := by
  unfold create
  cases settings.check with
  | error e => simp [bind, Except.bind]
  | ok u => cases r.check <;> simp [bind, Except.bind, pure, Except.pure, eq_comm]

end Agent

/-! ## Queues -/

namespace Queue

variable {α : Type} {q : Queue α} {x y : α}

theorem mem_waiting_push (h : y ∈ (q.push x).2.waiting) : y ∈ q.waiting ∨ y = x := by
  unfold push at h
  split_ifs at h
  · simpa using h
  · exact .inl h
  · exact .inl h

theorem mem_waiting_pop (h : y ∈ q.pop.2.waiting) : y ∈ q.waiting := by
  unfold pop at h
  split at h
  · rename_i b bs hq
    rw [hq]
    exact List.mem_cons_of_mem b h
  · split_ifs at h <;> exact h

end Queue

/-! ## Channels -/

/-- A channel holds only frames of some kind: those that wait, and the registration that is kept. -/
structure Channel.Holds (P : AgentFrame → Prop) (c : Channel) : Prop where
  waiting : ∀ f ∈ c.queue.waiting, P f
  last : ∀ f, c.lastRegister = some f → P f ∧ f.isRegister = true

namespace Channel.Holds

variable {P : AgentFrame → Prop} {c c' : Channel} {e : Event} {r : Reply}

theorem send (h : c.Holds P) {f : AgentFrame} (hf : P f) : (c.send f).1.Holds P := by
  have hlast : ∀ g, (if f.isRegister = true then some f else c.lastRegister) = some g → P g ∧ g.isRegister = true := by
    intro g hg
    split_ifs at hg with hr
    · cases hg
      exact ⟨hf, hr⟩
    · exact h.last g hg
  unfold Channel.send
  by_cases hs : c.queue.senders = 0
  · rw [if_pos hs]
    exact h
  · rw [if_neg hs]
    rcases hp : c.queue.push f with ⟨_ | _ | _, q⟩
    · refine ⟨fun g hg => ?_, hlast⟩
      have hmem : g ∈ (c.queue.push f).2.waiting := by rw [hp]; exact hg
      obtain hmem | rfl := Queue.mem_waiting_push hmem
      · exact h.waiting g hmem
      · exact hf
    · exact ⟨h.waiting, hlast⟩
    · exact ⟨h.waiting, hlast⟩

/-- A new call begins with the registration that was kept. -/
theorem fail (h : c.Holds P) : c.fail.Holds P := by
  unfold Channel.fail
  split_ifs
  · exact ⟨h.waiting, h.last⟩
  · refine ⟨fun f hf => ?_, h.last⟩
    dsimp only at hf
    cases hlast : c.lastRegister with
    | none =>
      rw [hlast] at hf
      cases hf
    | some g =>
      rw [hlast] at hf
      obtain hmem | rfl := Queue.mem_waiting_push hf
      · cases hmem
      · exact (h.last f hlast).1

/-- Nothing else comes into a channel than what is sent. -/
theorem reacts (h : c.Holds P) (hr : Reacts c e c' r) (he : ∀ f, e = .send f → P f) : c'.Holds P := by
  cases hr with
  | establish => exact ⟨nofun, h.last⟩
  | send f => exact h.send (he f rfl)
  | unopened | ended => exact h.fail
  | taken => exact ⟨fun f hf => h.waiting f (Queue.mem_waiting_pop hf), h.last⟩
  | stop =>
    refine ⟨fun f hf => ?_, h.last⟩
    unfold Channel.stop at hf
    dsimp only at hf
    split_ifs at hf
    · exact h.waiting f hf
    · cases hf
  | _ => exact ⟨h.waiting, h.last⟩

end Channel.Holds

/-- Only frames of some kind have gone out on a line or are on their way. -/
structure Line.Holds (P : AgentFrame → Prop) (l : Line) : Prop where
  channel : l.channel.Holds P
  sent : ∀ p ∈ l.sent.toList, P p.2

theorem Line.Holds.flush {P : AgentFrame → Prop} {l : Line} (h : l.Holds P) : l.flush.Holds P := by
  unfold Line.flush
  split_ifs
  · refine ⟨⟨nofun, h.channel.last⟩, fun p hp => ?_⟩
    simp only [Queue.drain, Array.toList_append, List.mem_append, List.mem_map] at hp
    obtain hp | ⟨f, hf, rfl⟩ := hp
    · exact h.sent p hp
    · exact h.channel.waiting f hf
  · exact h

theorem Line.Holds.event {P : AgentFrame → Prop} {l : Line} (h : l.Holds P) {e : Channel.Event}
    (he : ∀ f, e = .send f → P f) : (l.event e).1.Holds P := by
  unfold Line.event
  cases hr : l.channel.react e with
  | none => exact h
  | some r =>
    obtain ⟨c, reply⟩ := r
    refine Line.Holds.flush ⟨?_, h.sent⟩
    exact h.channel.reacts (Channel.reacts_of_react hr) he

/-! ## A channel one step at a time -/

namespace Interleaved

/-- The frame that somebody is about to queue. -/
def Sender.frame? : Sender → Option AgentFrame
  | .holding _ f | .offering _ f _ => some f
  | .telling | .returned _ => none

/-- Only frames of some kind have gone out on the calls of a channel, are on their way, or are going to be. -/
structure Holds (P : AgentFrame → Prop) (s : Interleaved) : Prop where
  sender : ∀ x ∈ s.senders, ∀ f, x.frame? = some f → P f
  last : ∀ f, s.lastRegister = some f → P f ∧ f.isRegister = true
  call : ∀ c ∈ s.calls, ∀ f ∈ c.sent ++ c.queue.waiting, P f

namespace Holds

variable {P : AgentFrame → Prop} {s s' : Interleaved} {e : Event}

theorem advance (h : s.Holds P) (i : Nat) {x : Sender} (hx : ∀ f, x.frame? = some f → P f) :
    (s.advance i x).Holds P := by
  refine ⟨fun y hy => ?_, h.last, h.call⟩
  obtain hy | rfl := List.mem_or_eq_of_mem_set hy
  · exact h.sender y hy
  · exact hx

theorem of_mem_set (h : s.Holds P) {k : Nat} {c : Call} (hc : ∀ f ∈ c.sent ++ c.queue.waiting, P f) :
    ∀ d ∈ s.calls.set k c, ∀ f ∈ d.sent ++ d.queue.waiting, P f := by
  intro d hd
  obtain hd | rfl := List.mem_or_eq_of_mem_set hd
  · exact h.call d hd
  · exact hc

theorem of_getElem? (h : s.Holds P) {i : Nat} {x : Sender} (hi : s.senders[i]? = some x) {f : AgentFrame}
    (hf : x.frame? = some f) : P f := h.sender x (List.mem_of_getElem? hi) f hf

theorem call_of_getElem? (h : s.Holds P) {k : Nat} {c : Call} (hc : s.calls[k]? = some c) :
    ∀ f ∈ c.sent ++ c.queue.waiting, P f := h.call c (List.mem_of_getElem? hc)

theorem freshCall {last : Option AgentFrame} (h : ∀ f, last = some f → P f) :
    ∀ f ∈ (freshCall last).sent ++ (freshCall last).queue.waiting, P f := by
  intro f hf
  cases last with
  | none => cases hf
  | some r =>
    have hpushed : f ∈ ((Queue.ofCapacity Queue.defaultCapacity).push r).2.waiting := by
      simpa [Interleaved.freshCall] using hf
    obtain hmem | rfl := Queue.mem_waiting_push hpushed
    · cases hmem
    · exact h f rfl

/-- A listener that ends takes frames with it at most. -/
theorem stop (h : s.Holds P) : s.stop.Holds P := by
  refine ⟨h.sender, h.last, fun c hc => ?_⟩
  obtain ⟨k, hk, rfl⟩ := List.mem_iff_getElem.1 hc
  have hlength : s.stop.calls.length = s.calls.length := by
    unfold Interleaved.stop
    split <;> simp
  have hbefore : s.calls[k]? = some (s.calls.get ⟨k, hlength ▸ hk⟩) := List.getElem?_eq_getElem _
  have hafter := getElem?_stop hbefore
  rw [List.getElem?_eq_getElem hk, Option.some.injEq] at hafter
  rw [hafter]
  intro f hf
  refine h.call_of_getElem? hbefore f ?_
  split_ifs at hf
  · exact List.mem_append_left _ (by simpa [Queue.dropReceiver] using hf)
  · exact hf

/-- Nothing else comes into a channel than what somebody begins to send. -/
theorem moves (h : s.Holds P) (hm : Moves s e s') (he : ∀ f, e = .send f → P f) : s'.Holds P := by
  cases hm with
  | establish =>
    refine ⟨h.sender, h.last, fun c hc => ?_⟩
    obtain rfl := List.mem_singleton.1 hc
    exact nofun
  | send f =>
    refine ⟨fun x hx => ?_, h.last, h.call⟩
    obtain hx | hx := List.mem_append.1 hx
    · exact h.sender x hx
    · obtain rfl := List.mem_singleton.1 hx
      intro g hg
      cases hs : s.slot with
      | none =>
        rw [hs] at hg
        cases hg
      | some k =>
        rw [hs] at hg
        cases hg
        exact he f rfl
  | @keep i k f hi hf =>
    have hadvance := h.advance i (x := .offering k f false) fun g hg => h.of_getElem? hi hg
    refine ⟨hadvance.sender, fun g hg => ?_, hadvance.call⟩
    cases hg
    exact ⟨h.of_getElem? hi rfl, hf⟩
  | pass hi => exact h.advance _ fun g hg => h.of_getElem? hi hg
  | wait hi => exact h.advance _ fun g hg => h.of_getElem? hi hg
  | refuse | giveUp => exact h.advance _ nofun
  | @tell i hi =>
    have hadvance := h.advance i (x := .returned .done) nofun
    exact ⟨hadvance.sender, h.last, h.call⟩
  | @queue i k f w c q hi hc hq =>
    have hcall := h.of_mem_set (k := k) (c := { c with queue := q }) fun g hg => by
      have hmem : g ∈ c.sent ++ (c.queue.push f).2.waiting := by rw [hq]; exact hg
      obtain hg | hg := List.mem_append.1 hmem
      · exact h.call_of_getElem? hc g (List.mem_append_left _ hg)
      · obtain hg | rfl := Queue.mem_waiting_push hg
        · exact h.call_of_getElem? hc g (List.mem_append_right _ hg)
        · exact h.of_getElem? hi rfl
    have hadvance := h.advance i (x := if f.isRegister then .telling else .returned .done) fun g hg => by
      split_ifs at hg <;> cases hg
    exact ⟨hadvance.sender, h.last, hcall⟩
  | opened hp hc | unopened hp hc | received hp hc | ended hp hc | arrive hp hc =>
    exact ⟨h.sender, h.last, h.of_mem_set fun f hf => h.call_of_getElem? hc f hf⟩
  | take hk hc hw =>
    refine ⟨h.sender, h.last, h.of_mem_set fun g hg => h.call_of_getElem? hc g ?_⟩
    rw [Queue.waiting_pop hw] at hg
    simpa [hw] using hg
  | release hk hc =>
    refine ⟨h.sender, h.last, h.of_mem_set fun g hg => h.call_of_getElem? hc g (List.mem_append_left _ ?_)⟩
    simpa [Queue.dropReceiver] using hg
  | renew =>
    refine ⟨h.sender, h.last, fun c hc => ?_⟩
    obtain hc | hc := List.mem_append.1 hc
    · exact h.call c hc
    · obtain rfl := List.mem_singleton.1 hc
      exact freshCall fun f hf => (h.last f hf).1
  | stop => exact h.stop
  | _ => exact ⟨h.sender, h.last, h.call⟩

/-- Along a row of steps, however they are interleaved. -/
theorem run {limit : Nat} {es : List Event} (hrun : Interleaved.run { limit := limit } es = some s)
    (hes : ∀ f, .send f ∈ es → P f) : s.Holds P := by
  refine run_induction (P := fun es s => (∀ f, .send f ∈ es → P f) → s.Holds P) (fun _ => ⟨by simp, by simp, by simp⟩)
    ?_ hrun hes
  intro es e s₁ s₂ hrun ih hm hes
  refine (ih fun f hf => hes f (List.mem_append_left _ hf)).moves hm ?_
  rintro f rfl
  exact hes f (List.mem_append_right _ List.mem_cons_self)

end Holds

end Interleaved

/-! ## Agents -/

namespace Agent

variable {a : Agent} {s s' s₀ : Line × World ω} {owner : List (List BackupFrame)}

/-- What an agent says on its channel: it introduces itself, or it reports the end of a stage. -/
def Says (a : Agent) (f : AgentFrame) : Prop := f = a.identity.register ∨ ∃ action, a.Reports action f

theorem says_register (a : Agent) : a.Says a.identity.register := .inl rfl

theorem says_stageComplete (a : Agent) (success : Bool) (message : String) (action : Action) :
    a.Says (a.identity.stageComplete success message action) := .inr ⟨action, success, message, rfl⟩

/-- What can happen to an agent: it registers or reports, a routine asks it for something, it deals with a command under
any behavior, or it opens a restore call; something happens to the channel other than that a frame is sent; its owner
makes a backup call on his own, which brings in what he sends; or the plans of the other side, the session or the files
become others. -/
inductive Step (a : Agent) : Line × World ω → List (List BackupFrame) → Line × World ω → Prop
  | registrate (s : Line × World ω) : Step a s [] ((a.registrate s.1).1, s.2)
  | report (s : Line × World ω) (success : Bool) (message : String) (action : Action) :
    Step a s [] ((a.report success message action s.1).2, s.2)
  | answer {f : Facade} (s : Line × World ω) (r : Request f) : Step a s [] (a.answer r s).2
  | handle (s : Line × World ω) (b : Behavior ω) (frame : OrchestratorFrame) : Step a s [] (a.handle b frame s)
  | openRestore (s : Line × World ω) (f : Fragment) : Step a s [] (s.1, (a.openRestore f s.2).2)
  | event (s : Line × World ω) {e : Channel.Event} (he : ∀ f, e ≠ .send f) : Step a s [] ((s.1.event e).1, s.2)
  | ownCall (s : Line × World ω) (c : BackupCall) :
    Step a s [c.received.toList] (s.1, { s.2 with orchestrator := s.2.orchestrator.nextBackup.2.record c })
  | around {s s' : Line × World ω} (hc : s'.1.channel = s.1.channel) (hs : s'.1.sent = s.1.sent)
    (hr : s'.2.orchestrator.requests = s.2.orchestrator.requests)
    (hu : s'.2.orchestrator.uploads = s.2.orchestrator.uploads) : Step a s [] s'

/-- One thing after the other, and what the calls brought in that the owner has made on his own. -/
inductive Lives (a : Agent) (s : Line × World ω) : List (List BackupFrame) → Line × World ω → Prop
  | start : Lives a s [] s
  | step {owner own : List (List BackupFrame)} {s' s'' : Line × World ω} (h : Lives a s owner s')
    (hs : a.Step s' own s'') : Lives a s (owner ++ own) s''

/-- All metadata in a row of backup frames is in the name of an agent. -/
def Signs (a : Agent) (fs : List BackupFrame) : Prop :=
  ∀ y ∈ fs, ∀ m, y.body = some (.metadata m) → m.agentId = a.identity.agentId

/-- So far all was said in the name of an agent, except for the backup calls of its owner. -/
structure Honest (a : Agent) (owner : List (List BackupFrame)) (s : Line × World ω) : Prop where
  line : s.1.Holds a.Says
  requests : ∀ m ∈ s.2.orchestrator.requests.toList, m.agentId = a.identity.agentId
  uploads : ∀ fs ∈ s.2.orchestrator.uploads.toList, fs ∈ owner ∨ a.Signs fs

theorem signs_of_intended {source : Source} {f : BackupFragment} {backupName : String} {fs : List BackupFrame}
    (h : fs <+: Upload.intended source f a.identity.agentId backupName) : a.Signs fs := by
  intro y hy m hbody
  obtain rfl | hy := List.mem_cons.1 (h.subset hy)
  · cases hbody
    rfl
  · obtain ⟨e, -, chunk, hfile⟩ := Upload.body_of_mem_intendedFiles hy
    rw [hbody] at hfile
    cases hfile

/-- Whatever becomes of the call of an upload, all metadata that it has taken is in the agent's name. -/
theorem signs_run (supply : Upload.Supply) (f : BackupFragment) (backupName : String) (plan : CallPlan) (d : Digest) :
    let c := (Upload.run supply f a.identity.agentId backupName plan d).2.call
    a.Signs c.accepted.toList ∧ a.Signs c.received.toList := by
  obtain ⟨hreceived, haccepted⟩ := Upload.run_prefix supply f a.identity.agentId backupName plan d
  exact ⟨signs_of_intended haccepted, signs_of_intended (hreceived.trans haccepted)⟩

/-- To plan a backup call brings nothing in. -/
theorem nextBackup_keeps (o : Orchestrator) :
    o.nextBackup.2.requests = o.requests ∧ o.nextBackup.2.uploads = o.uploads := by
  unfold Orchestrator.nextBackup
  split <;> exact ⟨rfl, rfl⟩

theorem requests_record (o : Orchestrator) (c : BackupCall) : (o.record c).requests = o.requests := by
  unfold Orchestrator.record
  split <;> rfl

theorem mem_uploads_record {o : Orchestrator} {c : BackupCall} {fs : List BackupFrame}
    (h : fs ∈ (o.record c).uploads.toList) : fs ∈ o.uploads.toList ∨ fs = c.received.toList := by
  unfold Orchestrator.record BackupCall.result at h
  split_ifs at h
  · simpa using h
  · exact .inl h

theorem requests_openRestore (a : Agent) (f : Fragment) (w : World ω) :
    (a.openRestore f w).2.orchestrator.requests =
        w.orchestrator.requests.push ⟨a.identity.agentId, some f, w.session.backupName⟩ ∧
      (a.openRestore f w).2.orchestrator.uploads = w.orchestrator.uploads := by
  unfold openRestore Orchestrator.restore
  dsimp only
  split <;> exact ⟨rfl, rfl⟩

theorem orchestrator_download (a : Agent) (f : Fragment) (dir : String) (w : World ω) :
    (a.download f dir w).2.orchestrator = (a.openRestore f w).2.orchestrator := by
  unfold download
  rcases a.openRestore f w with ⟨e | items, w'⟩ <;> rfl

theorem report_snd (a : Agent) (success : Bool) (message : String) (action : Action) (l : Line) :
    (a.report success message action l).2 = (l.send (a.identity.stageComplete success message action)).1 := by
  unfold report
  rcases l.send (a.identity.stageComplete success message action) with ⟨l', _ | _ | e⟩ <;> rfl

namespace Honest

theorem send (h : a.Honest owner s) {f : AgentFrame} (hf : a.Says f) : a.Honest owner ((s.1.send f).1, s.2) := by
  refine ⟨h.line.event ?_, h.requests, h.uploads⟩
  intro g hg
  cases hg
  exact hf

theorem event (h : a.Honest owner s) {e : Channel.Event} (he : ∀ f, e ≠ .send f) :
    a.Honest owner ((s.1.event e).1, s.2) :=
  ⟨h.line.event fun f hf => absurd hf (he f), h.requests, h.uploads⟩

theorem report (h : a.Honest owner s) (success : Bool) (message : String) (action : Action) :
    a.Honest owner ((a.report success message action s.1).2, s.2) := by
  rw [report_snd]
  exact h.send (a.says_stageComplete success message action)

theorem registrate (h : a.Honest owner s) : a.Honest owner ((a.registrate s.1).1, s.2) := by
  have hestablish := h.event (e := .establish) nofun
  unfold Agent.registrate
  split_ifs
  · exact h.send a.says_register
  · generalize s.1.event .establish = x at hestablish
    obtain ⟨l, _ | _ | e⟩ := x
    · exact hestablish.send a.says_register
    · exact hestablish.send a.says_register
    · exact hestablish

/-- A backup call, of which only the agent or its owner knows what it was sent. -/
theorem record (h : a.Honest owner s) (c : BackupCall) (own : List (List BackupFrame))
    (hc : c.received.toList ∈ own ∨ a.Signs c.received.toList) :
    a.Honest (owner ++ own) (s.1, { s.2 with orchestrator := s.2.orchestrator.nextBackup.2.record c }) := by
  refine ⟨h.line, ?_, fun fs hfs => ?_⟩
  · dsimp only
    rw [requests_record, (nextBackup_keeps _).1]
    exact h.requests
  · obtain hfs | rfl := mem_uploads_record hfs
    · rw [(nextBackup_keeps _).2] at hfs
      exact (h.uploads fs hfs).imp_left fun hmem => List.mem_append_left _ hmem
    · exact hc.imp_left fun hmem => List.mem_append_right _ hmem

theorem openRestore (h : a.Honest owner s) (f : Fragment) : a.Honest owner (s.1, (a.openRestore f s.2).2) := by
  obtain ⟨hrequests, huploads⟩ := a.requests_openRestore f s.2
  refine ⟨h.line, fun m hm => ?_, fun fs hfs => ?_⟩
  · rw [hrequests, Array.toList_push, List.mem_append, List.mem_singleton] at hm
    obtain hm | rfl := hm
    · exact h.requests m hm
    · rfl
  · rw [huploads] at hfs
    exact h.uploads fs hfs

theorem answer (h : a.Honest owner s) {f : Facade} (r : Request f) : a.Honest owner (a.answer r s).2 := by
  cases r with
  | look => exact h
  | fileSize => exact h
  | complete success message =>
    have hreport := h.report success message f.action
    exact ⟨hreport.line, h.requests, h.uploads⟩
  | send b =>
    have hrecord := h.record _ [] (.inr (a.signs_run ⟨s.2.tree.source a.chunkSize, true⟩ b
      s.2.session.backupName s.2.orchestrator.nextBackup.1 .empty).2)
    rw [List.append_nil] at hrecord
    exact hrecord
  | download b dir =>
    have hopen := h.openRestore b
    refine ⟨h.line, ?_, ?_⟩
    · change ∀ m ∈ (a.download b dir s.2).2.orchestrator.requests.toList, _
      rw [orchestrator_download]
      exact hopen.requests
    · change ∀ fs ∈ (a.download b dir s.2).2.orchestrator.uploads.toList, _
      rw [orchestrator_download]
      exact hopen.uploads

/-- A routine says nothing in another name, whatever it asks for. -/
theorem follow (h : a.Honest owner s) {f : Facade} (routine : Routine ω f Unit) :
    a.Honest owner (a.follow routine s) := by
  have hnoted (n : ω) (t : Line × World ω) (ht : a.Honest owner t) : a.Honest owner (noted n t) :=
    ⟨ht.line, ht.requests, ht.uploads⟩
  have hattempt : a.Honest owner (a.attempt routine s).2 := routine.run_preserves (fun r t ht => ht.answer r) hnoted h
  rw [follow_eq]
  generalize a.attempt routine s = x at hattempt
  obtain ⟨_ | u, t⟩ := x
  · have hsend := hattempt.send (a.says_stageComplete false breakdownMessage f.action)
    exact ⟨hsend.line, hattempt.requests, hattempt.uploads⟩
  · exact hattempt

theorem handle (h : a.Honest owner s) (b : Behavior ω) (frame : OrchestratorFrame) :
    a.Honest owner (a.handle b frame s) := by
  rw [handle_eq]
  cases b.command? frame s.2.session with
  | none => exact h
  | some c => exact Honest.follow (s := inSession s c.session) ⟨h.line, h.requests, h.uploads⟩ c.routine

theorem step {own : List (List BackupFrame)} (h : a.Honest owner s) (hs : a.Step s own s') :
    a.Honest (owner ++ own) s' := by
  cases hs with
  | ownCall _ c => exact h.record c _ (.inl List.mem_cons_self)
  | registrate => simpa using h.registrate
  | report _ success message action => simpa using h.report success message action
  | answer _ r => simpa using h.answer r
  | handle _ b frame => simpa using h.handle b frame
  | openRestore _ f => simpa using h.openRestore f
  | event _ he => simpa using h.event he
  | around hc hsent hr hu =>
    rw [List.append_nil]
    refine ⟨⟨?_, ?_⟩, ?_, ?_⟩
    · rw [hc]
      exact h.line.channel
    · rw [hsent]
      exact h.line.sent
    · rw [hr]
      exact h.requests
    · rw [hu]
      exact h.uploads

theorem lives (h : a.Honest [] s₀) (hs : a.Lives s₀ owner s) : a.Honest owner s := by
  induction hs with
  | start => exact h
  | step hs hstep ih => exact ih.step hstep

end Honest

/-! ## A listener that goes on -/

theorem Lives.event (h : a.Lives s₀ owner s) {e : Channel.Event} (he : ∀ f, e ≠ .send f) :
    a.Lives s₀ owner ((s.1.event e).1, s.2) := by
  simpa using h.step (.event s he)

theorem Lives.around (h : a.Lives s₀ owner s) (hc : s'.1.channel = s.1.channel) (hs : s'.1.sent = s.1.sent)
    (hw : s'.2 = s.2) : a.Lives s₀ owner s' := by
  simpa using h.step (.around hc hs (by rw [hw]) (by rw [hw]))

/-- A step of the listener is made of things that can happen to the agent. -/
theorem Lives.step? {b : Behavior ω} (h : a.Lives s₀ owner s) (hs : Line.step? (a.handle b) s = some s') :
    a.Lives s₀ owner s' := by
  obtain ⟨l, w⟩ := s
  unfold Line.step? at hs
  dsimp only at hs
  by_cases hcancelled : l.channel.cancelled = true
  · rw [if_pos hcancelled] at hs
    split_ifs at hs
    cases hs
    exact h.event (e := .stop) nofun
  · rw [if_neg hcancelled] at hs
    cases hl : l.channel.listener with
    | absent | handling | gone => simp [hl] at hs
    | waiting =>
      simp only [hl] at hs
      split_ifs at hs
      cases hs
      exact h.event (e := .proceed) nofun
    | dialing =>
      simp only [hl] at hs
      cases hs
      have hnext : a.Lives s₀ owner (l.nextCall, w) := h.around (by unfold Line.nextCall; split <;> rfl)
        (by unfold Line.nextCall; split <;> rfl) rfl
      exact hnext.event (e := .dial) nofun
    | opening =>
      simp only [hl] at hs
      split at hs
      · cases hs
        have hopen : a.Lives s₀ owner ({ l with isOpen := true }, w) := h.around rfl rfl rfl
        exact hopen.event nofun
      · cases hs
        have hend : a.Lives s₀ owner (l.endCall, w) := h.around rfl rfl rfl
        exact hend.event nofun
      · cases hs
    | reading =>
      simp only [hl] at hs
      split at hs
      · cases hs
      · rename_i f rest hitems
        cases hs
        have hread : a.Lives s₀ owner ({ l with current := { l.current with items := rest } }, w) :=
          h.around rfl rfl rfl
        have hhandle := (hread.event (e := .received (.ok f)) nofun).step (.handle _ b f)
        rw [List.append_nil] at hhandle
        exact hhandle.event (e := .handled) nofun
      · cases hs
        have hend : a.Lives s₀ owner (l.endCall, w) := h.around rfl rfl rfl
        exact hend.event nofun

theorem lives_settle (h : a.Lives s₀ owner s) (b : Behavior ω) :
    a.Lives s₀ owner (Line.settle (a.handle b) s) := by
  unfold Line.settle
  generalize 4 * s.1.work * (s.1.channel.limit + 2) + 4 = fuel
  induction fuel generalizing s with
  | zero => exact h
  | succ fuel ih =>
    rw [Line.settleWithin]
    cases hs : Line.step? (a.handle b) s with
    | none => exact h
    | some s' => exact ih (h.step? hs)

/-! ## The agent's own name -/

/-- What can happen to the channel of an agent one step at a time: the agent begins to introduce itself or to report the
end of a stage, or anything else than that somebody begins to send. -/
inductive Deed (a : Agent) : Interleaved.Event → Prop
  | registrate : Deed a (.send a.identity.register)
  | report (success : Bool) (message : String) (action : Action) :
    Deed a (.send (a.identity.stageComplete success message action))
  | other {e : Interleaved.Event} (he : ∀ f, e ≠ .send f) : Deed a e

theorem says_of_deed {f : AgentFrame} (h : a.Deed (.send f)) : a.Says f := by
  cases h with
  | registrate => exact a.says_register
  | report success message action => exact a.says_stageComplete success message action
  | other he => exact absurd rfl (he f)

/-- The only registration that an agent says is its own. -/
theorem eq_register_of_says {f : AgentFrame} (h : a.Says f) (hf : f.isRegister = true) : f = a.identity.register := by
  obtain rfl | ⟨action, success, message, rfl⟩ := h
  · rfl
  · cases hf

theorem honest_start (limit : Nat) (plans : List ControlPlan) (beyond : ControlPlan) {w : World ω}
    (hr : w.orchestrator.requests = #[]) (hu : w.orchestrator.uploads = #[]) :
    a.Honest [] (.ofPlans limit plans beyond, w) := by
  refine ⟨⟨⟨nofun, nofun⟩, nofun⟩, ?_, ?_⟩
  · rw [hr]
    exact nofun
  · rw [hu]
    exact nofun

/-- **An agent says everything in its own name.** An agent can be made of settings and a registration if and only if
there is room for a byte in a chunk, neither the version of the interface nor the agent id is blank and no field of the
software version is empty. Whatever happens then to the agent that was made, in any world and with any other side, one
thing after the other: what has gone out on any control call, and what waits to go out, is the registration with the
data that was checked or a report with the agent id, and what later calls begin with is this registration; all requests
to restore carry the agent id, and so does all metadata that came in by a backup call, unless the owner of the agent has
written the frames of this call himself. The metadata that the agent sends carries the agent id whatever becomes of its
call, also when the call is given up. Nothing changes for the control calls when those who use the channel, the listener
and the other side take their steps in between one another. -/
theorem own_name (settings : Settings) (r : Registration) :
    let register : AgentFrame := ⟨Action.register.code, registerType,
      some (.register ⟨r.agentId, some r.version, settings.apiVersion, r.scope⟩)⟩
    let Own (f : AgentFrame) := f = register ∨ ∃ (action : Action) (success : Bool) (message : String),
      f = ⟨action.code, stageCompleteType, some (.stageComplete ⟨success, message, r.agentId⟩)⟩
    let Signed (fs : List BackupFrame) := ∀ y ∈ fs, ∀ m, y.body = some (.metadata m) → m.agentId = r.agentId
    ((∃ a, create settings r = .ok a) ↔
      0 < settings.chunkSize ∧ Text.isBlank settings.apiVersion = false ∧ Text.isBlank r.agentId = false ∧
        r.version.productName ≠ "" ∧ r.version.productNumber ≠ "" ∧ r.version.revision ≠ "" ∧
        r.version.productionDate ≠ "" ∧ r.version.description ≠ "" ∧ r.version.kind ≠ "" ∧
        r.version.commercialVersion ≠ "" ∧ r.version.semanticVersion ≠ "") ∧
    ∀ a, create settings r = .ok a →
      (∀ (limit : Nat) (plans : List ControlPlan) (beyond : ControlPlan) (w : World ω) (owner : List (List BackupFrame))
        (s : Line × World ω), w.orchestrator.requests = #[] → w.orchestrator.uploads = #[] →
        a.Lives (.ofPlans limit plans beyond, w) owner s →
        (∀ p ∈ s.1.sent, Own p.2) ∧ (∀ f ∈ s.1.channel.queue.waiting, Own f) ∧
          (∀ f, s.1.channel.lastRegister = some f → f = register) ∧
          (∀ m ∈ s.2.orchestrator.requests, m.agentId = r.agentId) ∧
          ∀ fs ∈ s.2.orchestrator.uploads, fs ∈ owner ∨ Signed fs) ∧
      (∀ (supply : Upload.Supply) (f : BackupFragment) (backupName : String) (plan : CallPlan) (d : Digest),
        let c := (Upload.run supply f a.identity.agentId backupName plan d).2.call
        Signed c.accepted.toList ∧ Signed c.received.toList) ∧
      ∀ (limit : Nat) (es : List Interleaved.Event) (s : Interleaved), (∀ e ∈ es, a.Deed e) →
        Interleaved.run { limit := limit } es = some s →
        (∀ c ∈ s.calls, ∀ f ∈ c.sent ++ c.queue.waiting, Own f) ∧ ∀ f, s.lastRegister = some f → f = register := by
  intro register Own Signed
  refine ⟨?_, fun a ha => ?_⟩
  · simp only [create_eq_ok, exists_and_left, exists_eq, and_true, Settings.check_eq_ok, Registration.check_eq_ok,
      SoftwareVersion.check_eq_ok, and_assoc]
  · obtain ⟨-, -, rfl⟩ := (create_eq_ok settings r a).1 ha
    have hown {f : AgentFrame} (hf : Says ⟨{ r with apiVersion := settings.apiVersion }, settings.chunkSize⟩ f) :
        Own f := hf
    refine ⟨fun limit plans beyond w owner s hr hu hs => ?_, fun supply f backupName plan d => ?_,
      fun limit es s hes hrun => ?_⟩
    · have h := (honest_start limit plans beyond hr hu).lives hs
      refine ⟨fun p hp => hown (h.line.sent p hp.val), fun f hf => hown (h.line.channel.waiting f hf),
        fun f hf => ?_, fun m hm => h.requests m hm.val, fun fs hfs => h.uploads fs hfs.val⟩
      obtain ⟨hsaid, hregister⟩ := h.line.channel.last f hf
      exact eq_register_of_says hsaid hregister
    · exact signs_run supply f backupName plan d
    · have h := Interleaved.Holds.run hrun fun f hf => says_of_deed (hes _ hf)
      refine ⟨fun c hc f hf => hown (h.call c hc f hf), fun f hf => ?_⟩
      obtain ⟨hsaid, hregister⟩ := h.last f hf
      exact eq_register_of_says hsaid hregister

/-- An agent is told to make a backup of three bytes, and its call ends; it waits on a second one, and its owner makes a
backup call in another name. Taken one step at a time: the first call is refused after its registration was queued, and
the second begins with the same. -/
theorem own_name_second_call :
    let r : Registration := ⟨"A", "", ⟨"p", "1", "r", "d", "t", "k", "c", "s"⟩⟩
    let a : Agent := ⟨⟨r, "4.0"⟩, 2⟩
    let w : World Unit := { tree := ⟨[(.ofNames ["x"], .file ⟨#[1, 2, 3]⟩)], .root⟩ }
    let first : ControlPlan :=
      { items := [.ok ⟨1, 0, some (.execution { backupName := "nightly" })⟩, .error .streamClosed] }
    let other : BackupFrame := ⟨0, some (.metadata ⟨"B", none, "nightly"⟩)⟩
    let own := ((BackupCall.start {}).send other).2.finish.2
    let s := Line.settle (a.handle (Reference.behavior { agentId := "A", files := [{ path := "x" }] }))
      ((a.registrate (.ofPlans 3 [first] {})).1, w)
    let o := s.2.orchestrator.nextBackup.2.record own
    let es : List Interleaved.Event := [.establish, .send a.identity.register, .keep 0, .offer 0, .tell 0, .proceed,
      .dial, .answer (.error .streamClosed), .judge, .renew, .publish, .dial, .take 0, .take 1]
    create { chunkSize := 2 } r = .ok a ∧ s.1.sent.toList.map (·.1) = [1, 1, 2] ∧
      (∀ p ∈ s.1.sent, p.2 = a.identity.register ∨ ∃ (action : Action) (success : Bool) (message : String),
        p.2 = ⟨action.code, stageCompleteType, some (.stageComplete ⟨success, message, "A"⟩)⟩) ∧
      o.uploads.toList.map List.length = [5, 1] ∧
      (∀ fs ∈ o.uploads, fs ∈ [[other]] ∨ ∀ y ∈ fs, ∀ m, y.body = some (.metadata m) → m.agentId = "A") ∧
      ∃ t, Interleaved.run { limit := 3 } es = some t ∧
        t.calls.map (·.sent) = [[a.identity.register], [a.identity.register]] ∧
        ∀ f, t.lastRegister = some f → f = a.identity.register := by
  intro r a w first other own s o es
  have ha : create { chunkSize := 2 } r = .ok a :=
    (create_eq_ok _ _ _).2 ⟨by decide +kernel, by decide +kernel, rfl⟩
  have hlives : a.Lives (.ofPlans 3 [first] {}, w) [[other]] (s.1, { s.2 with orchestrator := o }) :=
    (lives_settle (Lives.start.step (.registrate _)) _).step (.ownCall s own)
  obtain ⟨-, hall⟩ := @own_name Unit { chunkSize := 2 } r
  obtain ⟨hruns, -, hsteps⟩ := hall a ha
  obtain ⟨hsent, -, -, -, huploads⟩ := hruns 3 [first] {} w _ _ rfl rfl hlives
  have hdeeds : ∀ e ∈ es, a.Deed e := by
    simp only [es, List.forall_mem_cons]
    exact ⟨.other nofun, .registrate, .other nofun, .other nofun, .other nofun, .other nofun, .other nofun,
      .other nofun, .other nofun, .other nofun, .other nofun, .other nofun, .other nofun, .other nofun, nofun⟩
  obtain ⟨t, ht⟩ : ∃ t, Interleaved.run { limit := 3 } es = some t := ⟨_, rfl⟩
  refine ⟨ha, by decide +kernel, hsent, by decide +kernel, huploads, t, ht, ?_, (hsteps 3 es t hdeeds ht).2⟩
  cases ht
  rfl

end Agent

end Custodian
