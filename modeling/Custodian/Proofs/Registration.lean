import Custodian.Proofs.Channel
import Mathlib.Data.List.DropRight

/-!
# How often a channel registers again

* `Exhausted` : the calls after which a channel gives up, told from how many frames each of them delivered;
  `exhausted_iff_lt` : the counter that the listener keeps tells the same;
* `History` : what events tell of the calls; `Tracks` : where the listener stands then, kept by every event
  (`Tracks.reacts`) as long as nobody shuts the channel down;
* `Over` : a channel whose listener has ended; it stays so, whatever happens;
* `exists_run_of_outcomes` : calls can go in any way until the channel gives up;
* `stopped_iff_exhausted` : when it does.
-/

namespace Custodian.Channel

set_option autoImplicit false

/-! ## When it is enough -/

/-- Calls after which no other is opened: after the first there were `limit` more, and the last `limit` of all delivered
nothing. A call is told by the number of frames it delivered. -/
def Exhausted (limit : Nat) (calls : List Nat) : Prop := limit < calls.length ∧ ∀ d ∈ calls.rtake limit, d = 0

instance (limit : Nat) (calls : List Nat) : Decidable (Exhausted limit calls) :=
  inferInstanceAs (Decidable (_ ∧ _))

/-- The counter of the listener after calls that failed: one that delivered something sets it back. -/
def retriesAfter (calls : List Nat) : Nat := calls.foldl (fun r d => (if d = 0 then r else 0) + 1) 0

theorem retriesAfter_concat (calls : List Nat) (d : Nat) :
    retriesAfter (calls ++ [d]) = (if d = 0 then retriesAfter calls else 0) + 1 := by
  rw [retriesAfter, List.foldl_append]
  rfl

/-- The counter exceeds the limit when it is enough. -/
theorem exhausted_iff_lt (limit : Nat) (calls : List Nat) : Exhausted limit calls ↔ limit < retriesAfter calls := by
  induction calls using List.reverseRecOn generalizing limit with
  | nil => simp [Exhausted, retriesAfter]
  | append_singleton calls d ih =>
    rw [retriesAfter_concat]
    cases limit with
    | zero => simp [Exhausted]
    | succ m =>
      -- the last call is one of those that must have delivered nothing
      have hlast : Exhausted (m + 1) (calls ++ [d]) ↔ d = 0 ∧ Exhausted m calls := by
        unfold Exhausted
        rw [List.rtake_concat_succ, List.length_append, List.length_singleton]
        simp only [List.mem_append, List.mem_singleton, or_imp, forall_and, forall_eq]
        constructor
        · rintro ⟨hl, hz, hd⟩
          exact ⟨hd, by omega, hz⟩
        · rintro ⟨hd, hl, hz⟩
          exact ⟨by omega, hz, hd⟩
      rw [hlast, ih]
      split_ifs with hd
      · simp [hd]
      · simp [hd]

/-- Calls after none of which it was enough. -/
def Survives (limit : Nat) (calls : List Nat) : Prop := ∀ n ≤ calls.length, ¬ Exhausted limit (calls.take n)

theorem survives_nil (limit : Nat) : Survives limit [] := fun n _ => by simp [Exhausted]

/-- What was not enough before is not enough when another call follows. -/
theorem Survives.take_concat {limit : Nat} {calls : List Nat} (h : Survives limit calls) (d : Nat) {n : Nat}
    (hn : n < (calls ++ [d]).length) : ¬ Exhausted limit ((calls ++ [d]).take n) := by
  rw [List.length_append, List.length_singleton] at hn
  rw [List.take_append_of_le_length (by omega)]
  exact h n (by omega)

theorem Survives.concat {limit : Nat} {calls : List Nat} (h : Survives limit calls) {d : Nat}
    (hd : ¬ Exhausted limit (calls ++ [d])) : Survives limit (calls ++ [d]) := by
  intro n hn
  obtain hn | rfl := Nat.lt_or_eq_of_le hn
  · exact h.take_concat d hn
  · rwa [List.take_length]

theorem Survives.retriesAfter_le {limit : Nat} {calls : List Nat} (h : Survives limit calls) :
    retriesAfter calls ≤ limit := by
  have hall := h calls.length (Nat.le_refl _)
  rw [List.take_length, exhausted_iff_lt] at hall
  omega

/-! ## The calls so far -/

/-- How many frames each call that has failed delivered, in order, and how many the call at hand has so far. -/
structure History where
  failed : List Nat := []
  now : Nat := 0
deriving DecidableEq

/-- What an event adds. -/
def History.after (h : History) : Event → History
  | .received (.ok _) => { h with now := h.now + 1 }
  | .received (.error _) | .opened (.error _) => ⟨h.failed ++ [h.now], 0⟩
  | _ => h

/-- What events tell of the calls. -/
def history (es : List Event) : History := es.foldl History.after {}

/-- Whether an event is part of shutting the channel down. -/
def Event.shutsDown : Event → Bool
  | .close | .beginShutdown | .endShutdown => true
  | _ => false

/-- Whether an event is one of a call: that it is opened, or that its opening or reading has a result. -/
def Event.ofCall : Event → Bool
  | .dial | .opened _ | .received _ => true
  | _ => false

/-- The listener has not been started. -/
structure Fresh (c : Channel) (h : History) : Prop where
  listener : c.listener = .absent
  established : c.established = false
  status : c.status = .idle
  retries : c.retries = 0
  calls : c.calls = 0
  history : h = {}

/-- No call is open, and those before have not been enough. -/
structure Between (limit : Nat) (c : Channel) (h : History) : Prop where
  listener : c.listener = .waiting ∨ c.listener = .dialing
  established : c.established = true
  status : c.status = .connecting
  senders : c.queue.senders = 1
  retries : c.retries = retriesAfter h.failed
  calls : c.calls = h.failed.length
  now : h.now = 0
  survives : Survives limit h.failed

/-- A call is open or being opened; its first frame has set the counter back. -/
structure Calling (limit : Nat) (c : Channel) (h : History) : Prop where
  listener : c.listener.inCall = true
  established : c.established = true
  status : c.status = .connecting ∨ c.status = .listening
  senders : c.queue.senders = 1
  retries : c.retries = if h.now = 0 then retriesAfter h.failed else 0
  calls : c.calls = h.failed.length + 1
  survives : Survives limit h.failed

/-- The last call was enough. -/
structure GivenUp (limit : Nat) (c : Channel) (h : History) : Prop where
  listener : c.listener = .gone
  established : c.established = true
  status : c.status = .stopped .registrationExhausted
  senders : c.queue.senders = 0
  retries : c.retries = limit
  calls : c.calls = h.failed.length
  exhausted : Exhausted limit h.failed
  least : ∀ n < h.failed.length, ¬ Exhausted limit (h.failed.take n)

/-- Where the listener stands when it is known what the calls delivered. -/
inductive Phase (limit : Nat) (c : Channel) (h : History) : Prop
  | fresh (hf : Fresh c h)
  | between (hb : Between limit c h)
  | calling (hc : Calling limit c h)
  | givenUp (hg : GivenUp limit c h)

/-- Nobody has shut the channel down, and the listener stands where it should. -/
structure Tracks (limit : Nat) (c : Channel) (h : History) : Prop where
  limit_eq : c.limit = limit
  cancelled : c.cancelled = false
  phase : Phase limit c h

variable {limit : Nat} {c c' : Channel} {h : History} {e : Event} {r : Reply}

theorem tracks_new (limit : Nat) : Tracks limit { limit := limit } {} :=
  ⟨rfl, rfl, .fresh ⟨rfl, rfl, rfl, rfl, rfl, rfl⟩⟩

namespace Phase

/-- Frames on their way play no part. -/
theorem of_queue (hp : Phase limit c h) {q : Queue AgentFrame} (hq : q.senders = c.queue.senders)
    (last : Option AgentFrame) (ready : Bool) :
    Phase limit { c with queue := q, lastRegister := last, ready := ready } h := by
  cases hp with
  | fresh hf => exact .fresh { hf with }
  | between hb => exact .between { hb with senders := hq.trans hb.senders }
  | calling hc => exact .calling { hc with senders := hq.trans hc.senders }
  | givenUp hg => exact .givenUp { hg with senders := hq.trans hg.senders }

theorem fresh_of_not_established (hp : Phase limit c h) (he : c.established = false) : Fresh c h := by
  cases hp with
  | fresh hf => exact hf
  | between hb => exact absurd hb.established (by simp [he])
  | calling hc => exact absurd hc.established (by simp [he])
  | givenUp hg => exact absurd hg.established (by simp [he])

theorem between_of_listener (hp : Phase limit c h) (hl : c.listener = .waiting ∨ c.listener = .dialing) :
    Between limit c h := by
  cases hp with
  | fresh hf => rcases hl with hl | hl <;> exact absurd hf.listener (by simp [hl])
  | between hb => exact hb
  | calling hc => rcases hl with hl | hl <;> exact absurd hc.listener (by simp [hl, Listener.inCall])
  | givenUp hg => rcases hl with hl | hl <;> exact absurd hg.listener (by simp [hl])

theorem calling_of_inCall (hp : Phase limit c h) (hl : c.listener.inCall = true) : Calling limit c h := by
  cases hp with
  | fresh hf => exact absurd hl (by simp [hf.listener, Listener.inCall])
  | between hb => rcases hb.listener with hb | hb <;> exact absurd hl (by simp [hb, Listener.inCall])
  | calling hc => exact hc
  | givenUp hg => exact absurd hl (by simp [hg.listener, Listener.inCall])

theorem givenUp_of_gone (hp : Phase limit c h) (hl : c.listener = .gone) : GivenUp limit c h := by
  cases hp with
  | fresh hf => exact absurd hf.listener (by simp [hl])
  | between hb => rcases hb.listener with hb | hb <;> exact absurd hb (by simp [hl])
  | calling hc => exact absurd hc.listener (by simp [hl, Listener.inCall])
  | givenUp hg => exact hg

end Phase

/-- A call that fails was enough, or another follows. -/
theorem Tracks.fail (ht : Tracks limit c h) (hl : c.listener.inCall = true) :
    Tracks limit c.fail ⟨h.failed ++ [h.now], 0⟩ := by
  obtain ⟨hlimit, hcancel, hp⟩ := ht
  have hc := hp.calling_of_inCall hl
  -- the counter is compared before it is raised
  have hx : Exhausted limit (h.failed ++ [h.now]) ↔ limit ≤ c.retries := by
    rw [exhausted_iff_lt, retriesAfter_concat, ← hc.retries, Nat.lt_succ_iff]
  have hle : c.retries ≤ limit := by
    have hs := hc.survives.retriesAfter_le
    rw [hc.retries]
    split_ifs
    · exact hs
    · omega
  have hcalls : c.calls = (h.failed ++ [h.now]).length := by
    rw [List.length_append, List.length_singleton, hc.calls]
  obtain hlt | hge := Nat.lt_or_ge c.retries c.limit
  · obtain ⟨q, hfail, hq⟩ := fail_of_lt hlt
    have hnx : ¬ Exhausted limit (h.failed ++ [h.now]) := by
      rw [hx]
      omega
    have hretries : c.retries + 1 = retriesAfter (h.failed ++ [h.now]) := by rw [retriesAfter_concat, ← hc.retries]
    rw [hfail]
    exact ⟨hlimit, hcancel,
      .between ⟨.inr rfl, hc.established, rfl, hq, hretries, hcalls, rfl, hc.survives.concat hnx⟩⟩
  · have hsenders : c.queue.senders - 1 = 0 := by rw [hc.senders]
    rw [fail_of_le hge]
    exact ⟨hlimit, hcancel, .givenUp ⟨rfl, hc.established, rfl, hsenders, Nat.le_antisymm hle (hlimit ▸ hge), hcalls,
      hx.2 (hlimit ▸ hge), fun n hn => hc.survives.take_concat _ hn⟩⟩

/-- What is known of the calls stays right as long as nobody shuts the channel down. -/
theorem Tracks.reacts (ht : Tracks limit c h) (he : e.shutsDown = false) (hr : Reacts c e c' r) :
    Tracks limit c' (h.after e) := by
  have ⟨hlimit, hcancel, hp⟩ := ht
  cases hr with
  | establish hest =>
    have hf := hp.fresh_of_not_established hest
    have hh := hf.history
    subst hh
    exact ⟨hlimit, hcancel, .between ⟨.inl rfl, rfl, rfl, rfl, hf.retries, hf.calls, rfl, survives_nil limit⟩⟩
  | unestablished => exact ht
  | send f =>
    obtain ⟨q, last, ready, hs, hq⟩ := c.send_eq f
    rw [hs]
    exact ⟨hlimit, hcancel, hp.of_queue hq last ready⟩
  | close => cases he
  | beginShutdown => cases he
  | endShutdown => cases he
  | proceed hl =>
    have hb := hp.between_of_listener (.inl hl)
    exact ⟨hlimit, hcancel, .between { hb with listener := .inr rfl }⟩
  | dial hl =>
    have hb := hp.between_of_listener (.inr hl)
    have hretries : c.retries = if h.now = 0 then retriesAfter h.failed else 0 := by
      rw [if_pos hb.now, hb.retries]
    exact ⟨hlimit, hcancel, .calling ⟨rfl, hb.established, .inl hb.status, hb.senders, hretries,
      congrArg (· + 1) hb.calls, hb.survives⟩⟩
  | opened hl =>
    have hc := hp.calling_of_inCall (by simp [hl, Listener.inCall])
    exact ⟨hlimit, hcancel, .calling { hc with listener := rfl, status := .inr rfl }⟩
  | unopened hl err => exact ht.fail (by simp [hl, Listener.inCall])
  | received hl f =>
    have hc := hp.calling_of_inCall (by simp [hl, Listener.inCall])
    exact ⟨hlimit, hcancel, .calling { hc with listener := rfl, retries := rfl }⟩
  | ended hl err => exact ht.fail (by simp [hl, Listener.inCall])
  | handled hl =>
    have hc := hp.calling_of_inCall (by simp [hl, Listener.inCall])
    exact ⟨hlimit, hcancel, .calling { hc with listener := rfl }⟩
  | taken => exact ⟨hlimit, hcancel, hp.of_queue (Queue.senders_pop _) _ _⟩
  | stop hc => exact absurd hc (by simp [hcancel])

/-- Unless the channel has given up, the listener goes on and it has not been enough. -/
theorem Phase.givenUp_or_running (hp : Phase limit c h) :
    GivenUp limit c h ∨
      Survives limit h.failed ∧ c.listener ≠ .gone ∧ (∀ why, c.status ≠ .stopped why) ∧ c.retries ≤ limit ∧
        c.calls = h.failed.length + if c.listener.inCall then 1 else 0 := by
  cases hp with
  | fresh hf =>
    obtain ⟨hl, -, hst, hr, hc, rfl⟩ := hf
    exact .inr ⟨survives_nil limit, by simp [hl], by simp [hst], by omega, by simp [hl, hc, Listener.inCall]⟩
  | between hb =>
    have hle := hb.survives.retriesAfter_le
    have hcall : c.listener.inCall = false := by rcases hb.listener with hl | hl <;> rw [hl] <;> rfl
    refine .inr ⟨hb.survives, ?_, by simp [hb.status], hb.retries ▸ hle, by simp [hcall, hb.calls]⟩
    rcases hb.listener with hl | hl <;> simp [hl]
  | calling hc =>
    have hle := hc.survives.retriesAfter_le
    refine .inr ⟨hc.survives, ?_, ?_, ?_, by simp [hc.listener, hc.calls]⟩
    · intro hl
      exact absurd hc.listener (by simp [hl, Listener.inCall])
    · rcases hc.status with hst | hst <;> simp [hst]
    · rw [hc.retries]
      split_ifs <;> omega
  | givenUp hg => exact .inl hg

theorem Phase.gone_iff (hp : Phase limit c h) : c.listener = .gone ↔ Exhausted limit h.failed := by
  obtain hg | ⟨hs, hl, -⟩ := hp.givenUp_or_running
  · exact iff_of_true hg.listener hg.exhausted
  · have hall := hs h.failed.length (Nat.le_refl _)
    rw [List.take_length] at hall
    exact iff_of_false hl hall

theorem Tracks.run {es : List Event} (ht : Tracks limit c h) (hrun : c.run es = some c')
    (hes : ∀ e ∈ es, e.shutsDown = false) : Tracks limit c' (es.foldl History.after h) :=
  run_induction (fun he ht hr => ht.reacts he hr) hrun hes ht

/-! ## After the end -/

/-- The listener has ended and no frame is accepted. -/
structure Over (c : Channel) (calls : Nat) : Prop where
  gone : c.listener = .gone
  senders : c.queue.senders = 0
  closed : c.established = true ∨ c.cancelled = true
  calls_eq : c.calls = calls

theorem Over.reacts {n : Nat} (ho : Over c n) (hr : Reacts c e c' r) : Over c' n ∧ e.ofCall = false := by
  obtain ⟨hl, hq, hc, hn⟩ := ho
  have hcancel : c.queue.dropSender.senders = 0 := by
    show c.queue.senders - 1 = 0
    omega
  cases hr with
  | establish he hc' => simp [he, hc'] at hc
  | unestablished => exact ⟨⟨hl, hq, hc, hn⟩, rfl⟩
  | send f =>
    rw [send_of_senders_eq_zero hq]
    exact ⟨⟨hl, hq, hc, hn⟩, rfl⟩
  | close => exact ⟨⟨hl, hcancel, .inr rfl, hn⟩, rfl⟩
  | beginShutdown => exact ⟨⟨hl, hcancel, .inr rfl, hn⟩, rfl⟩
  | endShutdown => exact ⟨⟨hl, hq, hc, hn⟩, rfl⟩
  | proceed hl' => simp [hl] at hl'
  | dial hl' => simp [hl] at hl'
  | opened hl' => simp [hl] at hl'
  | unopened hl' => simp [hl] at hl'
  | received hl' => simp [hl] at hl'
  | ended hl' => simp [hl] at hl'
  | handled hl' => simp [hl] at hl'
  | taken hl' => simp [hl, Listener.inCall] at hl'
  | stop _ hl' => simp [hl, Listener.running] at hl'

theorem Over.run {n : Nat} (ho : Over c n) {es : List Event} (hrun : c.run es = some c') :
    Over c' n ∧ ∀ e ∈ es, e.ofCall = false := by
  induction es generalizing c with
  | nil =>
    cases hrun
    exact ⟨ho, by simp⟩
  | cons e es ih =>
    rw [Channel.run, Option.bind_eq_some_iff] at hrun
    obtain ⟨r, he, hrun⟩ := hrun
    obtain ⟨ho', he'⟩ := ho.reacts (reacts_of_react he)
    obtain ⟨ho'', hes⟩ := ih ho' hrun
    exact ⟨ho'', List.forall_mem_cons.2 ⟨he', hes⟩⟩

/-! ## Calls of any outcome -/

/-- How a control call goes: it cannot be opened, or it delivers frames and then fails or ends. -/
inductive Outcome where
  | unopened (e : Error)
  | ended (frames : List OrchestratorFrame) (e : Error)

namespace Outcome

/-- How many frames a call delivers. -/
def delivered : Outcome → Nat
  | unopened _ => 0
  | ended frames _ => frames.length

/-- What the listener sees of the frames of a call. -/
def frameEvents (frames : List OrchestratorFrame) : List Event :=
  frames.flatMap fun f => [.received (.ok f), .handled]

/-- What the listener sees of a call. -/
def events : Outcome → List Event
  | unopened e => [.dial, .opened (.error e)]
  | ended frames e => .dial :: .opened (.ok ()) :: frameEvents frames ++ [.received (.error e)]

end Outcome

/-- The channel is established, and the listener sees a first registration. -/
def registered (f : AgentFrame) : List Event := [.establish, .send f, .proceed]

theorem exists_run_registered (limit : Nat) {f : AgentFrame} (hf : f.isRegister = true) :
    ∃ c, run { limit := limit } (registered f) = some c ∧ c.listener = .dialing := by
  let c : Channel :=
    { limit := limit
      queue := .ofCapacity Queue.defaultCapacity
      status := .connecting
      established := true
      listener := .waiting }
  have hsend : c.react (.send f) =
      some ({ c with queue := (c.queue.push f).2, lastRegister := some f, ready := true }, .done) := by
    simp [react, Channel.send, c, Queue.ofCapacity, Queue.push, Queue.defaultCapacity, hf]
  refine ⟨{ c with queue := (c.queue.push f).2, lastRegister := some f, listener := .dialing }, ?_, rfl⟩
  have hestablish : react { limit := limit } .establish = some (c, .done) := rfl
  rw [registered, run_cons hestablish, run_cons hsend]
  rfl

theorem exists_run_frames (hl : c.listener = .reading) (fs : List OrchestratorFrame) :
    ∃ c', run c (Outcome.frameEvents fs) = some c' ∧ c'.listener = .reading := by
  induction fs generalizing c with
  | nil => exact ⟨c, rfl, hl⟩
  | cons f fs ih =>
    have hreceived : c.react (.received (.ok f)) = some ({ c with listener := .handling f, retries := 0 }, .done) := by
      simp only [react, if_pos hl]
    obtain ⟨c', hrun, hl'⟩ := ih (c := { c with listener := .reading, retries := 0 }) rfl
    refine ⟨c', ?_, hl'⟩
    show run c (.received (.ok f) :: .handled :: Outcome.frameEvents fs) = _
    rw [run_cons hreceived]
    exact hrun

theorem listener_fail (c : Channel) : c.fail.listener = .dialing ∨ c.fail.listener = .gone := by
  obtain hlt | hge := Nat.lt_or_ge c.retries c.limit
  · obtain ⟨q, hfail, -⟩ := fail_of_lt hlt
    rw [hfail]
    exact .inl rfl
  · rw [fail_of_le hge]
    exact .inr rfl

theorem exists_run_events (hl : c.listener = .dialing) (o : Outcome) :
    ∃ c', run c o.events = some c' ∧ (c'.listener = .dialing ∨ c'.listener = .gone) := by
  have hdial : c.react .dial = some ({ c with listener := .opening, calls := c.calls + 1 }, .done) := by
    simp only [react, if_pos hl]
  cases o with
  | unopened e =>
    refine ⟨_, ?_, listener_fail { c with listener := .opening, calls := c.calls + 1 }⟩
    rw [Outcome.events, run_cons hdial]
    rfl
  | ended frames e =>
    obtain ⟨c', hrun, hl'⟩ :=
      exists_run_frames (c := { c with listener := .reading, calls := c.calls + 1, status := .listening }) rfl frames
    refine ⟨c'.fail, ?_, listener_fail c'⟩
    rw [Outcome.events, List.cons_append, run_cons hdial, List.cons_append, run_cons (r := .done) rfl, run_append, hrun,
      Option.bind_some]
    simp only [run, react, if_pos hl', Option.bind_some]

theorem after_frames (h : History) (fs : List OrchestratorFrame) :
    (Outcome.frameEvents fs).foldl History.after h = { h with now := h.now + fs.length } := by
  induction fs generalizing h with
  | nil => rfl
  | cons f fs ih =>
    show (Outcome.frameEvents fs).foldl History.after { h with now := h.now + 1 } = _
    rw [ih, List.length_cons, Nat.add_comm fs.length 1, ← Nat.add_assoc]

theorem after_events {h : History} (hn : h.now = 0) (o : Outcome) :
    o.events.foldl History.after h = ⟨h.failed ++ [o.delivered], 0⟩ := by
  cases o with
  | unopened e =>
    show (⟨h.failed ++ [h.now], 0⟩ : History) = _
    rw [hn]
    rfl
  | ended frames e =>
    have hframes := after_frames h frames
    rw [hn, Nat.zero_add] at hframes
    show (Outcome.frameEvents frames ++ [Event.received (.error e)]).foldl History.after h = _
    rw [List.foldl_append, hframes]
    rfl

theorem after_outcomes {h : History} (hn : h.now = 0) (outs : List Outcome) :
    (outs.flatMap Outcome.events).foldl History.after h = ⟨h.failed ++ outs.map Outcome.delivered, 0⟩ := by
  induction outs generalizing h with
  | nil =>
    rw [List.map_nil, List.append_nil, ← hn]
    rfl
  | cons o outs ih =>
    rw [List.flatMap_cons, List.foldl_append, after_events hn, ih rfl, List.map_cons, List.append_assoc,
      List.singleton_append]

theorem shutsDown_events (o : Outcome) : ∀ e ∈ o.events, e.shutsDown = false := by
  cases o with
  | unopened e => simp [Outcome.events, Event.shutsDown]
  | ended frames e =>
    simp only [Outcome.events, Outcome.frameEvents, List.cons_append, List.mem_cons, List.mem_append, List.mem_flatMap,
      List.not_mem_nil, or_false]
    rintro e (rfl | rfl | ⟨f, -, rfl | rfl⟩ | rfl) <;> rfl

/-- Calls may go in any way until it is enough. -/
theorem exists_run_of_outcomes {outs : List Outcome} (ht : Tracks limit c h) (hl : c.listener = .dialing)
    (hs : ∀ n < outs.length, ¬ Exhausted limit (h.failed ++ (outs.map Outcome.delivered).take n)) :
    ∃ c', run c (outs.flatMap Outcome.events) = some c' ∧ (c'.listener = .dialing ∨ c'.listener = .gone) := by
  induction outs generalizing c h with
  | nil => exact ⟨c, rfl, .inl hl⟩
  | cons o outs ih =>
    obtain ⟨c₁, hrun, hl₁⟩ := exists_run_events hl o
    have ht₁ : Tracks limit c₁ ⟨h.failed ++ [o.delivered], 0⟩ := by
      rw [← after_events (ht.phase.between_of_listener (.inr hl)).now o]
      exact ht.run hrun (shutsDown_events o)
    rw [List.flatMap_cons, run_append, hrun, Option.bind_some]
    cases outs with
    | nil => exact ⟨c₁, rfl, hl₁⟩
    | cons o' outs =>
      -- this call was not enough, so that another is due
      have hnx : ¬ Exhausted limit (h.failed ++ [o.delivered]) := hs 1 (by simp)
      obtain hl₁ | hl₁ := hl₁
      · refine ih ht₁ hl₁ fun n hn => ?_
        have hnext := hs (n + 1) (by simpa using hn)
        rwa [List.map_cons, List.take_succ_cons, List.append_cons] at hnext
      · exact absurd (ht₁.phase.givenUp_of_gone hl₁).exhausted hnx

/-! ## The whole life of a channel -/

/-- **When a channel gives up.** As long as nobody shuts it down, whatever else happens and however its calls go: it has
stopped if and only if its calls so far have been enough, and no fewer of them have been; until then the listener goes
on. Calls are opened one after another, and the counter never exceeds the limit. Once it has given up, nothing opens
another call or hands it a frame, and no frame is accepted, whoever does what. And calls may go in any way: until it is
enough, another is due after each of them. -/
theorem stopped_iff_exhausted (limit : Nat) :
    (∀ (es : List Event) (c : Channel), run { limit := limit } es = some c → (∀ e ∈ es, e.shutsDown = false) →
      let calls := (history es).failed
      (c.status = .stopped .registrationExhausted ↔ Exhausted limit calls) ∧
        (∀ n < calls.length, ¬ Exhausted limit (calls.take n)) ∧
        (¬ Exhausted limit calls → c.listener ≠ .gone ∧ ∀ why, c.status ≠ .stopped why) ∧
        c.calls = calls.length + (if c.listener.inCall then 1 else 0) ∧ c.retries ≤ limit ∧
        (Exhausted limit calls → ∀ es' c', c.run es' = some c' →
          c'.calls = calls.length ∧ (∀ e ∈ es', e.ofCall = false) ∧
            ∀ f, c'.send f = (c', .refused .streamClosed))) ∧
    ∀ (f : AgentFrame) (outs : List Outcome), f.isRegister = true →
      (∀ n < outs.length, ¬ Exhausted limit ((outs.map Outcome.delivered).take n)) →
      ∃ c, run { limit := limit } (registered f ++ outs.flatMap Outcome.events) = some c ∧
        (history (registered f ++ outs.flatMap Outcome.events)).failed = outs.map Outcome.delivered ∧
        c.listener = if Exhausted limit (outs.map Outcome.delivered) then .gone else .dialing := by
  refine ⟨fun es c hrun hes => ?_, fun f outs hf hs => ?_⟩
  · intro calls
    have ht : Tracks limit c (history es) := (tracks_new limit).run hrun hes
    obtain hg | ⟨hs, hl, hst, hr, hc⟩ := ht.phase.givenUp_or_running
    · have ho : Over c calls.length := ⟨hg.listener, hg.senders, .inl hg.established, hg.calls⟩
      refine ⟨iff_of_true hg.status hg.exhausted, hg.least, fun h => absurd hg.exhausted h, ?_, hg.retries.le, ?_⟩
      · simp [hg.listener, Listener.inCall, hg.calls, calls]
      · intro _ es' c' hrun'
        obtain ⟨ho', hcall⟩ := ho.run hrun'
        exact ⟨ho'.calls_eq, hcall, send_of_senders_eq_zero ho'.senders⟩
    · have hx : ¬ Exhausted limit calls := by
        have hall := hs calls.length (Nat.le_refl _)
        rwa [List.take_length] at hall
      exact ⟨iff_of_false (hst _) hx, fun n hn => hs n (Nat.le_of_lt hn), fun _ => ⟨hl, hst⟩, hc, hr,
        fun h => absurd h hx⟩
  · obtain ⟨c₀, hrun₀, hl₀⟩ := exists_run_registered limit hf
    have hes₀ : ∀ e ∈ registered f, e.shutsDown = false := by simp [registered, Event.shutsDown]
    have ht₀ : Tracks limit c₀ {} := (tracks_new limit).run hrun₀ hes₀
    obtain ⟨c, hrun, hl⟩ := exists_run_of_outcomes ht₀ hl₀ (by simpa using hs)
    have hhistory : history (registered f ++ outs.flatMap Outcome.events) = ⟨outs.map Outcome.delivered, 0⟩ := by
      rw [history, List.foldl_append]
      exact after_outcomes (h := {}) rfl outs
    have ht : Tracks limit c ⟨outs.map Outcome.delivered, 0⟩ := by
      rw [← List.nil_append (outs.map Outcome.delivered), ← after_outcomes (h := {}) rfl]
      refine ht₀.run hrun fun e he => ?_
      obtain ⟨o, -, he⟩ := List.mem_flatMap.1 he
      exact shutsDown_events o e he
    refine ⟨c, by rw [run_append, hrun₀, Option.bind_some, hrun], by rw [hhistory], ?_⟩
    have hgone := ht.phase.gone_iff
    split_ifs with hx
    · exact hgone.2 hx
    · exact hl.resolve_right fun hl => hx (hgone.1 hl)

/-- With one more call allowed: one that cannot be opened, one that delivers a frame, and one that delivers none. -/
theorem stopped_after_three_calls :
    let f : AgentFrame := { body := some (.register {}) }
    let outs : List Outcome := [.unopened .streamClosed, .ended [{}] .streamClosed, .ended [] .streamClosed]
    f.isRegister = true ∧ (∀ n < outs.length, ¬ Exhausted 1 ((outs.map Outcome.delivered).take n)) ∧
      ∃ c, run { limit := 1 } (registered f ++ outs.flatMap Outcome.events) = some c ∧
        c.status = .stopped .registrationExhausted ∧ c.calls = 3 := by
  intro f outs
  have hf : f.isRegister = true := rfl
  have hs : ∀ n < outs.length, ¬ Exhausted 1 ((outs.map Outcome.delivered).take n) := by decide
  obtain ⟨c, hrun, hh, hl⟩ := (stopped_iff_exhausted 1).2 f outs hf hs
  have hes : ∀ e ∈ registered f ++ outs.flatMap Outcome.events, e.shutsDown = false := by decide
  obtain ⟨hst, -, -, hc, -⟩ := (stopped_iff_exhausted 1).1 _ c hrun hes
  rw [hh] at hst hc
  have hx : Exhausted 1 (outs.map Outcome.delivered) := by decide
  rw [if_pos hx] at hl
  rw [hl] at hc
  exact ⟨hf, hs, c, hrun, hst.2 hx, hc⟩

end Custodian.Channel
