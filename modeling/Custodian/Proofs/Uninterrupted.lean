import Custodian.Proofs.Channel
import Custodian.Proofs.Interleaved

/-!
# A channel that nobody interrupts

* `reached`, `Agrees`, `Represents` : the channel that callers and the listener see while all of them wait;
* `exists_run_of_react` : an event of such a channel is a row of steps that nobody interrupts;
* `exists_run_of_run` : so is a row of events, hence what holds of all rows of steps holds of a `Channel`.
-/

namespace Custodian.Interleaved

set_option autoImplicit false

variable {c c' : Channel} {s s' : Interleaved}

/-! ## The channel in view -/

/-- Where a listener stands while it waits, does not run, or has not gone on yet. -/
def Position.listener? : Position → Option Listener
  | .absent => some .absent
  | .waiting => some .waiting
  | .dialing _ => some .dialing
  | .opening _ => some .opening
  | .reading _ => some .reading
  | .handling _ f => some (.handling f)
  | .gone => some .gone
  | .failed | .leaving | .renewing | .publishing _ => none

/-- The queue of the last call, with a sender if callers reach it. -/
def reached (slot : Option Nat) (calls : List Call) : Queue AgentFrame :=
  match calls.getLast? with
  | some d => { d.queue with senders := if slot.isSome then 1 else 0 }
  | none => (Queue.ofCapacity Queue.defaultCapacity).dropSender

/-- A channel as callers see it. -/
structure Agrees (c : Channel) (s : Interleaved) : Prop where
  limit : c.limit = s.limit
  status : c.status = s.status
  queue : c.queue = reached s.slot s.calls
  lastRegister : c.lastRegister = s.lastRegister
  ready : c.ready = s.ready
  cancelled : c.cancelled = s.cancelled
  established : c.established = s.established
  joining : c.joining = s.shutdowns.any (·.joins)
  retries : c.retries = s.retries
  calls : c.calls = s.opened
  slot : ∀ k, s.slot = some k → k + 1 = s.calls.length
  read : ∀ d, s.calls.getLast? = some d → d.read = d.inbound.length

/-- A channel as callers and the listener see it. -/
structure Represents (c : Channel) (s : Interleaved) : Prop extends Agrees c s where
  listener : s.position.listener? = some c.listener

theorem represents_new (limit : Nat) : Represents { limit := limit } { limit := limit } := by
  constructor
  · constructor <;> simp [reached]
  · rfl

/-! ## The last call -/

theorem getLast?_eq {l : List Call} {k : Nat} (hk : k + 1 = l.length) : l.getLast? = l[k]? := by
  rw [List.getLast?_eq_getElem?, ← hk, Nat.add_sub_cancel]

theorem getLast?_set {l : List Call} {k : Nat} (hk : k + 1 = l.length) (d : Call) : (l.set k d).getLast? = some d := by
  rw [getLast?_eq (by rw [List.length_set, hk]), List.getElem?_set_self (by omega)]

theorem exists_last {l : List Call} {k : Nat} (hk : k + 1 = l.length) : ∃ d, l[k]? = some d :=
  ⟨l[k], List.getElem?_eq_getElem (by omega)⟩

theorem reached_set {l : List Call} {k : Nat} (hk : k + 1 = l.length) (slot : Option Nat) (d : Call) :
    reached slot (l.set k d) = { d.queue with senders := if slot.isSome then 1 else 0 } := by
  rw [reached, getLast?_set hk]

theorem dropSender_reached (slot : Option Nat) (l : List Call) : (reached slot l).dropSender = reached none l := by
  unfold reached
  split
  · cases slot <;> rfl
  · rfl

theorem reached_of_last {l : List Call} {k : Nat} {d : Call} (hk : k + 1 = l.length) (hd : l[k]? = some d)
    (slot : Option Nat) : reached slot l = { d.queue with senders := if slot.isSome then 1 else 0 } := by
  rw [reached, getLast?_eq hk, hd]

/-- Nothing changes for callers when the last call changes but for its queue, which nobody touches. -/
theorem reached_of_queue_eq {l : List Call} {k : Nat} {d d' : Call} (hk : k + 1 = l.length) (hd : l[k]? = some d)
    (hq : d'.queue = d.queue) (slot : Option Nat) : reached slot (l.set k d') = reached slot l := by
  rw [reached_set hk, hq, reached_of_last hk hd]

/-! ## The listener -/

theorem position_of_listener? {p : Position} {x : Listener} (h : p.listener? = some x) :
    match x with
    | .absent => p = .absent
    | .waiting => p = .waiting
    | .dialing => ∃ k, p = .dialing k
    | .opening => ∃ k, p = .opening k
    | .reading => ∃ k, p = .reading k
    | .handling f => ∃ k, p = .handling k f
    | .gone => p = .gone := by
  cases p <;> cases h <;> first | rfl | exact ⟨_, rfl⟩

theorem running_of_listener? {p : Position} {x : Listener} (h : p.listener? = some x) :
    p.running = x.running ∧ p.waits = x.running := by
  cases p <;> cases h <;> exact ⟨rfl, rfl⟩

theorem call_of_listener? {p : Position} {x : Listener} (h : p.listener? = some x) : p.call.isSome = x.inCall := by
  cases p <;> cases h <;> rfl

theorem unopened_of_listener? {p : Position} {x : Listener} (h : p.listener? = some x) (hx : x.running = true) :
    p.unopened.isSome = !x.inCall := by
  cases p <;> cases h <;> first | rfl | cases hx

/-- Steps that nobody interrupts lead to a channel, and those who shut it down stay where they are. -/
def Reaches (s : Interleaved) (c : Channel) : Prop :=
  ∃ es s', run s es = some s' ∧ Represents c s' ∧ s'.shutdowns = s.shutdowns

theorem Reaches.refl (h : Represents c s) : Reaches s c := ⟨[], s, rfl, h, rfl⟩

theorem Reaches.cons {e : Event} (he : s.react e = some s') (hkept : s'.shutdowns = s.shutdowns) (h : Reaches s' c) :
    Reaches s c := by
  obtain ⟨es, t, hrun, hc, ht⟩ := h
  exact ⟨e :: es, t, (run_cons he es).trans hrun, hc, ht.trans hkept⟩

/-- After a failed call the listener ends or goes on to another one. -/
theorem reaches_fail (h : Agrees c s) (hl : s.position = .failed) : Reaches s c.fail := by
  have hlimit := h.limit
  have hretries := h.retries
  rcases Nat.lt_or_ge s.retries s.limit with hr | hr
  · have hjudge : s.react .judge =
        some { s with retries := s.retries + 1, status := .connecting, position := .renewing } := by
      rw [react, if_pos hl, judge, if_neg (by omega)]
    have hnew : (s.calls ++ [freshCall s.lastRegister]).getLast? = some (freshCall s.lastRegister) :=
      List.getLast?_concat
    rw [Channel.fail, if_neg (by omega)]
    refine ⟨[.judge, .renew, .publish], _, (run_cons hjudge _).trans rfl, ⟨{ h with
      status := rfl
      queue := ?_
      retries := congrArg (· + 1) h.retries
      slot := fun k hk => ?_
      read := fun d hd => ?_ }, rfl⟩, rfl⟩
    · show _ = reached (some s.calls.length) (s.calls ++ [freshCall s.lastRegister])
      rw [reached, hnew, h.lastRegister]
      cases s.lastRegister <;> rfl
    · cases hk
      show s.calls.length + 1 = (s.calls ++ [freshCall s.lastRegister]).length
      rw [List.length_append, List.length_singleton]
    · cases hnew.symm.trans hd
      cases s.lastRegister <;> rfl
  · have hjudge : s.react .judge = some { s with slot := none, position := .leaving } := by
      rw [react, if_pos hl, judge, if_pos hr]
    rw [Channel.fail_of_le (by omega)]
    refine ⟨[.judge, .leave], _, (run_cons hjudge _).trans rfl, ⟨{ h with
      status := rfl
      queue := ?_
      slot := fun k hk => by cases hk }, rfl⟩, rfl⟩
    show c.queue.dropSender = _
    rw [h.queue]
    exact dropSender_reached _ _

/-! ## The events of the listener -/

theorem reaches_proceed (h : Represents c s) (hl : c.listener = .waiting) (hr : c.ready = true) :
    Reaches s { c with ready := false, listener := .dialing } := by
  have hp : s.position = .waiting := position_of_listener? (hl ▸ h.listener)
  have hproceed : s.react .proceed = some { s with ready := false, position := .dialing 0 } := by
    rw [react, if_pos ⟨hp, h.ready ▸ hr⟩]
  exact .cons hproceed rfl (.refl ⟨{ h with ready := rfl }, rfl⟩)

theorem reaches_dial (h : Represents c s) (hl : c.listener = .dialing) :
    Reaches s { c with listener := .opening, calls := c.calls + 1 } := by
  obtain ⟨k, hp⟩ := position_of_listener? (hl ▸ h.listener)
  have hdial : s.react .dial = some { s with position := .opening k, opened := s.opened + 1 } := by
    simp only [react, hp]
  exact .cons hdial rfl (.refl ⟨{ h with calls := congrArg (· + 1) h.calls }, rfl⟩)

/-- The listener or the other side changes the last call, but for its queue. -/
theorem Agrees.setCall (h : Agrees c s) {k : Nat} {d d' : Call} (hk : k + 1 = s.calls.length)
    (hd : s.calls[k]? = some d) (hq : d'.queue = d.queue) (hread : d'.read = d'.inbound.length) :
    Agrees c (s.setCall k d') where
  limit := h.limit
  status := h.status
  queue := h.queue.trans (reached_of_queue_eq hk hd hq s.slot).symm
  lastRegister := h.lastRegister
  ready := h.ready
  cancelled := h.cancelled
  established := h.established
  joining := h.joining
  retries := h.retries
  calls := h.calls
  slot j hj := (h.slot j hj).trans List.length_set.symm
  read b hb := by
    cases (getLast?_set hk d').symm.trans hb
    exact hread

theorem setCall_setCall (s : Interleaved) (k : Nat) (d d' : Call) : (s.setCall k d).setCall k d' = s.setCall k d' := by
  simp only [setCall, List.set_set]

theorem reaches_opened (h : Represents c s) (hs : Sound s) (hl : c.listener = .opening) (r : Except Error Unit) :
    Reaches s (match r with | .ok _ => { c with listener := .reading, status := .listening } | .error _ => c.fail) := by
  obtain ⟨k, hp⟩ := position_of_listener? (hl ▸ h.listener)
  obtain ⟨hk, hopened⟩ := hs.placed.of_call (k := k) (by rw [hp]; rfl)
  obtain ⟨d, hd⟩ := exists_last hk
  have hread := h.read d ((getLast?_eq hk).trans hd)
  have hset : Agrees c (s.setCall k { d with answer := some r }) := h.toAgrees.setCall hk hd rfl hread
  have hanswer : s.react (.answer r) = some (s.answered k d r) := by simp only [react, hp, hd, Option.map_some]
  cases r with
  | ok u => exact .cons hanswer rfl (.refl ⟨{ hset with status := rfl }, rfl⟩)
  | error e =>
    refine .cons hanswer rfl (reaches_fail ?_ rfl)
    exact { hset with }

theorem reaches_received (h : Represents c s) (hs : Sound s) (hl : c.listener = .reading)
    (r : Except Error OrchestratorFrame) :
    Reaches s (match r with
      | .ok f => { c with listener := .handling f, retries := 0 }
      | .error _ => c.fail) := by
  obtain ⟨k, hp⟩ := position_of_listener? (hl ▸ h.listener)
  obtain ⟨hk, hopened⟩ := hs.placed.of_call (k := k) (by rw [hp]; rfl)
  obtain ⟨d, hd⟩ := exists_last hk
  have hread := h.read d ((getLast?_eq hk).trans hd)
  -- everything that came in before has been read, so what comes in now is read next
  let d' : Call := { d with inbound := d.inbound ++ [r] }
  have harrive : s.react (.arrive k r) = some (s.setCall k d') := by
    simp only [react, atCall, hd, Option.bind_some, Option.map_some]
    rw [if_pos (by omega)]
  have hd' : (s.setCall k d').calls[k]? = some d' := by
    rw [getElem?_setCall hd, if_pos rfl]
  have hnext : d'.inbound[d'.read]? = some r := by
    show (d.inbound ++ [r])[d.read]? = some r
    rw [hread, List.getElem?_concat_length]
  have hreceive : (s.setCall k d').react .receive = some ((s.setCall k d').read k d' r) := by
    have hp' : (s.setCall k d').position = .reading k := hp
    simp only [react, hp', hd', Option.bind_some, hnext, Option.map_some]
  have hset : Agrees c ((s.setCall k d').setCall k { d' with read := d'.read + 1 }) := by
    rw [setCall_setCall]
    refine h.toAgrees.setCall hk hd rfl ?_
    show d.read + 1 = (d.inbound ++ [r]).length
    rw [hread, List.length_append, List.length_singleton]
  cases r with
  | ok f => exact .cons harrive rfl (.cons hreceive rfl (.refl ⟨{ hset with retries := rfl }, rfl⟩))
  | error e =>
    refine .cons harrive rfl (.cons hreceive rfl (reaches_fail ?_ rfl))
    exact { hset with }

theorem reaches_handled (h : Represents c s) {f : OrchestratorFrame} (hl : c.listener = .handling f) :
    Reaches s { c with listener := .reading } := by
  obtain ⟨k, hp⟩ := position_of_listener? (hl ▸ h.listener)
  have hhandled : s.react .handled = some { s with position := .reading k, returned := s.returned + 1 } := by
    simp only [react, hp]
  exact .cons hhandled rfl (.refl ⟨{ h with }, rfl⟩)

theorem reaches_taken (h : Represents c s) (hs : Sound s) (hl : c.listener.inCall = true)
    (hq : c.queue.waiting ≠ []) : Reaches s { c with queue := c.queue.pop.2 } := by
  obtain ⟨k, hp⟩ := Option.isSome_iff_exists.1 ((call_of_listener? h.listener).trans hl)
  obtain ⟨hk, hopened⟩ := hs.placed.of_call hp
  obtain ⟨d, hd⟩ := exists_last hk
  have hqueue := h.queue.trans (reached_of_last hk hd s.slot)
  obtain ⟨f, rest, hw⟩ : ∃ f rest, d.queue.waiting = f :: rest := by
    rw [hqueue] at hq
    exact List.exists_cons_of_ne_nil hq
  have htake : s.react (.take k) = some (s.setCall k { d with queue := d.queue.pop.2, sent := d.sent ++ [f] }) := by
    simp only [react, atCall, hd, hw, Option.bind_some, Option.map_some]
    rw [if_pos (by omega)]
  refine .cons htake rfl (.refl ⟨{ h with
    queue := ?_
    slot := fun j hj => (h.slot j hj).trans List.length_set.symm
    read := fun b hb => ?_ }, h.listener⟩)
  · show c.queue.pop.2 = reached s.slot (s.calls.set k _)
    rw [reached_set hk, hqueue, Queue.pop_senders]
  · cases (getLast?_set hk _).symm.trans hb
    exact h.read d ((getLast?_eq hk).trans hd)

theorem reaches_stop (h : Represents c s) (hs : Sound s) (hc : c.cancelled = true) (hl : c.listener.running = true) :
    Reaches s c.stop := by
  have hw : s.position.waits = true := (running_of_listener? h.listener).2.trans hl
  have hstop : s.react .stop = some s.stop := by rw [react, if_pos ⟨h.cancelled ▸ hc, hw⟩]
  obtain ⟨k, hk, hcall⟩ : ∃ k, k + 1 = s.calls.length ∧ (s.position.unopened = some k ↔ c.listener.inCall = false) := by
    have hcall := call_of_listener? h.listener
    have hunopened := unopened_of_listener? h.listener hl
    cases hin : c.listener.inCall with
    | true =>
      obtain ⟨k, hp⟩ := Option.isSome_iff_exists.1 (hcall.trans hin)
      rw [hin, Bool.not_true, Option.isSome_eq_false_iff, Option.isNone_iff_eq_none] at hunopened
      exact ⟨k, (hs.placed.of_call hp).1, by simp [hunopened]⟩
    | false =>
      obtain ⟨k, hp⟩ := Option.isSome_iff_exists.1 (hunopened.trans (by rw [hin]; rfl))
      exact ⟨k, (hs.placed.of_unopened hp).1, by simp [hp]⟩
  obtain ⟨d, hd⟩ := exists_last hk
  have hlast : s.stop.calls.getLast? =
      some (if c.listener.inCall then d else { d with queue := d.queue.dropReceiver }) := by
    rw [getLast?_eq (hk.trans (length_calls_stop s).symm), getElem?_stop hd]
    cases hin : c.listener.inCall <;> simp [hcall, hin]
  refine .cons hstop rfl (.refl ⟨{ h with
    queue := ?_
    slot := fun j hj => (h.slot j hj).trans (length_calls_stop s).symm
    read := fun b hb => ?_ }, rfl⟩)
  · show (if c.listener.inCall then c.queue else c.queue.dropReceiver) = reached s.slot s.stop.calls
    rw [reached, hlast, h.queue, reached_of_last hk hd]
    cases c.listener.inCall <;> rfl
  · cases hlast.symm.trans hb
    have hread := h.read d ((getLast?_eq hk).trans hd)
    cases c.listener.inCall <;> exact hread

/-! ## The events of callers -/

theorem getElem?_of_senders {l : List Sender} {x : Sender} (hx : s.senders = l ++ [x]) :
    s.senders[l.length]? = some x := by
  rw [hx, List.getElem?_concat_length]

theorem senders_advance {l : List Sender} {x : Sender} (hx : s.senders = l ++ [x]) (y : Sender) :
    (s.advance l.length y).senders = l ++ [y] := by
  show s.senders.set l.length y = _
  rw [hx, List.set_append_right _ _ (Nat.le_refl _), Nat.sub_self]
  rfl

/-- Nobody but its sender sees how far a frame has come. -/
theorem Represents.advance (h : Represents c s) (i : Nat) (x : Sender) : Represents c (s.advance i x) := { h with }

/-- The last of those who send a frame has got an answer, and the channel has become another one. -/
def Replies (s : Interleaved) (l : List Sender) (c : Channel) (r : Channel.Reply) : Prop :=
  ∃ es s', run s es = some s' ∧ Represents c s' ∧ s'.shutdowns = s.shutdowns ∧ s'.senders = l ++ [.returned r]

theorem Replies.cons {e : Event} {l : List Sender} {r : Channel.Reply} (he : s.react e = some s')
    (hkept : s'.shutdowns = s.shutdowns) (h : Replies s' l c r) : Replies s l c r := by
  obtain ⟨es, t, hrun, hc, ht, hx⟩ := h
  exact ⟨e :: es, t, (run_cons he es).trans hrun, hc, ht.trans hkept, hx⟩

theorem Replies.refl {l : List Sender} {r : Channel.Reply} (h : Represents c s) (hx : s.senders = l ++ [.returned r]) :
    Replies s l c r :=
  ⟨[], s, rfl, h, rfl, hx⟩

theorem replies_told (h : Represents c s) {l : List Sender} (hx : s.senders = l ++ [.telling]) :
    Replies s l { c with ready := true } .done := by
  have hxi := getElem?_of_senders hx
  have htell : s.react (.tell l.length) = some { s.advance l.length (.returned .done) with ready := true } := by
    simp only [react, hxi]
  exact .cons htell rfl (.refl ⟨{ h with ready := rfl }, h.listener⟩ (senders_advance hx _))

/-- A frame for which there is room. -/
theorem replies_accepted (h : Represents c s) {l : List Sender} {k : Nat} {f : AgentFrame} {d : Call}
    {q : Queue AgentFrame} (hx : s.senders = l ++ [.offering k f false]) (hslot : s.slot = some k)
    (hd : s.calls[k]? = some d) (hq : d.queue.push f = (.accepted, q)) :
    Replies s l { c with queue := { q with senders := 1 }, ready := c.ready || f.isRegister } .done := by
  have hk := h.slot k hslot
  have hxi := getElem?_of_senders hx
  have hagrees : Agrees { c with queue := { q with senders := 1 } } (s.setCall k { d with queue := q }) := { h with
    queue := by
      show _ = reached s.slot (s.calls.set k _)
      rw [reached_set hk, hslot]
      rfl
    slot := fun j hj => (h.slot j hj).trans List.length_set.symm
    read := fun b hb => by
      cases (getLast?_set hk _).symm.trans hb
      exact h.read d ((getLast?_eq hk).trans hd) }
  obtain ⟨t, hoffer, hc, hkept, ht⟩ : ∃ t, s.react (.offer l.length) = some t ∧
      Represents { c with queue := { q with senders := 1 } } t ∧ t.shutdowns = s.shutdowns ∧
      t.senders = l ++ [if f.isRegister then .telling else .returned .done] := by
    refine ⟨{ (s.setCall k { d with queue := q }).advance l.length _ with queued := s.queued ++ [(k, f)] }, ?_,
      ⟨{ hagrees with }, h.listener⟩, rfl, senders_advance hx _⟩
    simp only [react, hxi, offer, hd, hq]
  -- only a registration is still to be told to the listener
  cases hf : f.isRegister with
  | false =>
    rw [hf] at ht
    rw [Bool.or_false]
    exact .cons hoffer hkept (.refl hc ht)
  | true =>
    rw [hf] at ht
    rw [Bool.or_true]
    exact .cons hoffer hkept (replies_told hc ht)

/-- A frame for which there is no room yet: its sender does not wait. -/
theorem replies_pending (h : Represents c s) {l : List Sender} {k : Nat} {f : AgentFrame} {d : Call}
    {q : Queue AgentFrame} (hx : s.senders = l ++ [.offering k f false]) (hd : s.calls[k]? = some d)
    (hq : d.queue.push f = (.full, q)) : Replies s l c .pending := by
  have hxi := getElem?_of_senders hx
  have hoffer : s.react (.offer l.length) = some (s.advance l.length (.offering k f true)) := by
    simp only [react, hxi, offer, hd, hq]
  have hxi' := getElem?_of_senders (senders_advance hx (.offering k f true))
  have hgiveUp : (s.advance l.length (.offering k f true)).react (.giveUp l.length) =
      some ((s.advance l.length (.offering k f true)).advance l.length (.returned .pending)) := by
    simp only [react, hxi']
  refine .cons hoffer rfl (.cons hgiveUp rfl (.refl ((h.advance _ _).advance _ _) ?_))
  exact senders_advance (senders_advance hx _) _

theorem replies_refused (h : Represents c s) {l : List Sender} {k : Nat} {f : AgentFrame} {d : Call}
    {q : Queue AgentFrame} (hx : s.senders = l ++ [.offering k f false]) (hd : s.calls[k]? = some d)
    (hq : d.queue.push f = (.closed, q)) : Replies s l c (.refused .streamClosed) := by
  have hxi := getElem?_of_senders hx
  have hoffer : s.react (.offer l.length) = some (s.advance l.length (.returned (.refused .streamClosed))) := by
    simp only [react, hxi, offer, hd, hq]
  exact .cons hoffer rfl (.refl (h.advance _ _) (senders_advance hx _))

/-- Whoever sends a frame and is not interrupted gets the answer that the channel gives at once. -/
theorem replies_send (h : Represents c s) (f : AgentFrame) :
    Replies s s.senders (c.send f).1 (c.send f).2 := by
  have hsend : s.react (.send f) = some (s.send f) := rfl
  cases hslot : s.slot with
  | none =>
    have hnone : c.queue.senders = 0 := by
      rw [h.queue, hslot, reached]
      split <;> rfl
    rw [Channel.send_of_senders_eq_zero hnone]
    refine .cons hsend rfl (.refl { h with } ?_)
    simp only [send, hslot]
  | some k =>
    have hk := h.slot k hslot
    obtain ⟨d, hd⟩ := exists_last hk
    have hqueue : c.queue = { d.queue with senders := 1 } := by
      rw [h.queue, hslot, reached_of_last hk hd]
      rfl
    have hx : (s.send f).senders = s.senders ++ [.holding k f] := by simp only [send, hslot]
    have hkeep : (s.send f).react (.keep s.senders.length) = some ((s.send f).keep s.senders.length k f) := by
      simp only [react, getElem?_of_senders hx]
    obtain ⟨t, ht, hagrees⟩ : ∃ t, (s.send f).keep s.senders.length k f = t ∧
        Represents { c with lastRegister := if f.isRegister then some f else c.lastRegister } t ∧
        t.shutdowns = s.shutdowns ∧ t.slot = s.slot ∧ t.calls = s.calls ∧
        t.senders = s.senders ++ [.offering k f false] := by
      refine ⟨_, rfl, ?_⟩
      unfold keep
      split_ifs
      · exact ⟨{ h with lastRegister := rfl }, rfl, rfl, rfl, senders_advance hx _⟩
      · exact ⟨{ h with }, rfl, rfl, rfl, senders_advance hx _⟩
    obtain ⟨hc, hshutdowns, htslot, htcalls, htx⟩ := hagrees
    rw [ht] at hkeep
    refine .cons hsend rfl (.cons hkeep hshutdowns ?_)
    have hd' : t.calls[k]? = some d := htcalls ▸ hd
    have hpush : c.queue.push f = ((d.queue.push f).1, { (d.queue.push f).2 with senders := 1 }) := by
      rw [hqueue, Queue.push_senders]
    unfold Channel.send
    rw [if_neg (by rw [hqueue]; exact Nat.one_ne_zero), hpush]
    cases hq : d.queue.push f with
    | mk sent q =>
      cases sent with
      | accepted => exact replies_accepted hc htx (htslot.trans hslot) hd' hq
      | full => exact replies_pending hc htx hd' hq
      | closed => exact replies_refused hc htx hd' hq

theorem represents_establish (h : Represents c s) :
    Represents c.establish.1 s.establish.1 ∧ c.establish.2 = s.establish.2 ∧
      s.establish.1.shutdowns = s.shutdowns := by
  unfold Channel.establish establish
  rw [h.established, h.cancelled]
  split_ifs with hheld
  · exact ⟨h, rfl, rfl⟩
  · rw [not_or, Bool.not_eq_true, Bool.not_eq_true] at hheld
    refine ⟨⟨{ h with
      status := rfl
      queue := rfl
      cancelled := rfl
      established := rfl
      slot := fun k hk => by cases hk; rfl
      read := fun d hd => by cases hd; rfl }, rfl⟩, rfl, rfl⟩

theorem Represents.cancel (h : Represents c s) : Represents c.cancel s.cancel :=
  ⟨{ h with
    queue := by
      show c.queue.dropSender = reached none s.calls
      rw [h.queue, dropSender_reached]
    cancelled := rfl
    established := rfl
    slot := fun k hk => by cases hk }, h.listener⟩

theorem Represents.markStopped (h : Represents c s) : Represents c.markStopped s.markStopped :=
  ⟨{ h with status := rfl }, h.listener⟩

theorem any_joins_set {l : List Shutdown} {i : Nat} {joins returned : Bool} (hi : l[i]? = some ⟨joins, returned⟩) :
    (l.set i ⟨joins, true⟩).any (·.joins) = l.any (·.joins) := by
  induction l generalizing i with
  | nil => rfl
  | cons x l ih =>
    cases i with
    | zero =>
      cases hi
      rfl
    | succ i => rw [List.set_cons_succ, List.any_cons, List.any_cons, ih hi]

/-! ## All events -/

/-- How many of those who have begun to shut the channel down have not returned. -/
def unreturned (s : Interleaved) : Nat := s.shutdowns.countP fun x => !x.returned

/-- How many of them have not returned after an event. -/
def unreturnedAfter (n : Nat) : Channel.Event → Nat
  | .beginShutdown => n + 1
  | .endShutdown => n - 1
  | _ => n

/-- Only who has begun to shut the channel down returns from that, where `n` have begun and have not returned. -/
def Balanced : Nat → List Channel.Event → Prop
  | _, [] => True
  | n, e :: es => (e = .endShutdown → 0 < n) ∧ Balanced (unreturnedAfter n e) es

theorem exists_unreturned (h : 0 < unreturned s) :
    ∃ (i : Nat) (joins : Bool), s.shutdowns[i]? = some ⟨joins, false⟩ := by
  obtain ⟨x, hx, hr⟩ := List.countP_pos_iff.1 h
  obtain ⟨i, hi, rfl⟩ := List.mem_iff_getElem.1 hx
  refine ⟨i, s.shutdowns[i].joins, ?_⟩
  rw [List.getElem?_eq_getElem hi]
  cases hcase : s.shutdowns[i] with
  | mk joins returned =>
    rw [hcase] at hr
    simpa using hr

/-- What the caller learns from the last of these steps. -/
def Answered (s s' : Interleaved) (r : Channel.Reply) : Channel.Event → Prop
  | .send _ => s'.senders = s.senders ++ [.returned r]
  | .establish => s.establish = (s', r)
  | _ => True

theorem exists_run_of_endShutdown (h : Represents c s) (hj : (c.joining && c.listener.running) = false)
    (hn : 0 < unreturned s) :
    ∃ es s', run s es = some s' ∧ Represents c.markStopped s' ∧ unreturned s' = unreturned s - 1 := by
  obtain ⟨i, joins, hi⟩ := exists_unreturned hn
  have hmem := List.mem_of_getElem? hi
  have hend : s.react (.endShutdown i) = some { s.markStopped with shutdowns := s.shutdowns.set i ⟨joins, true⟩ } := by
    have hguard : (joins && s.position.running) = false := by
      rw [(running_of_listener? h.listener).1]
      rw [h.joining] at hj
      cases joins with
      | false => rfl
      | true =>
        rw [List.any_eq_true.2 ⟨_, hmem, rfl⟩] at hj
        exact hj
    simp only [react, hi, hguard, Bool.false_eq_true, if_false]
  refine ⟨[.endShutdown i], _, run_cons hend [], ⟨{ h.markStopped with
    joining := h.joining.trans (any_joins_set hi).symm }, h.listener⟩, ?_⟩
  show (s.shutdowns.set i ⟨joins, true⟩).countP _ = s.shutdowns.countP _ - 1
  obtain ⟨hlt, hget⟩ := List.getElem?_eq_some_iff.1 hi
  rw [List.countP_set hlt, hget]
  rfl

/-- **An event of a channel is a row of steps that nobody interrupts**, and whoever sends a frame or establishes the
channel gets the same answer. -/
theorem exists_run_of_react {e : Channel.Event} {r : Channel.Reply} (h : Represents c s) (hs : Sound s)
    (he : c.react e = some (c', r)) (hend : e = .endShutdown → 0 < unreturned s) :
    ∃ es s', run s es = some s' ∧ Represents c' s' ∧ unreturned s' = unreturnedAfter (unreturned s) e ∧
      Answered s s' r e := by
  -- what the listener does is no answer to anybody
  have listener {c' : Channel} (hreach : Reaches s c') :
      ∃ es s', run s es = some s' ∧ Represents c' s' ∧ unreturned s' = unreturned s ∧ True := by
    obtain ⟨es, t, hrun, hc, hkept⟩ := hreach
    exact ⟨es, t, hrun, hc, by rw [unreturned, hkept, unreturned], trivial⟩
  have establish {c' : Channel} {r : Channel.Reply} (hc : c.establish = (c', r)) :
      ∃ es t, run s es = some t ∧ Represents c' t ∧ unreturned t = unreturned s ∧ s.establish = (t, r) := by
    obtain ⟨hrep, hreply, hkept⟩ := represents_establish h
    rw [hc] at hrep hreply
    exact ⟨[.establish], s.establish.1, rfl, hrep, by rw [unreturned, hkept, unreturned], Prod.ext rfl hreply.symm⟩
  cases Channel.reacts_of_react he with
  | establish | unestablished => exact establish (Option.some.inj he)
  | send f =>
    obtain ⟨es, t, hrun, hc, hkept, ht⟩ := replies_send h f
    exact ⟨es, t, hrun, hc, by rw [unreturned, hkept, unreturned]; rfl, ht⟩
  | close => exact ⟨[.close], _, rfl, h.cancel.markStopped, rfl, trivial⟩
  | beginShutdown =>
    refine ⟨[.beginShutdown], _, rfl, ⟨{ h.cancel with joining := ?_ }, h.listener⟩, ?_, trivial⟩
    · show (c.joining || c.established) = (s.shutdowns ++ [(⟨s.established, false⟩ : Shutdown)]).any _
      rw [List.any_append, h.joining, h.established, List.any_cons, List.any_nil, Bool.or_false]
    · exact List.countP_append
  | endShutdown hj =>
    obtain ⟨es, t, hrun, hc, ht⟩ := exists_run_of_endShutdown h hj (hend rfl)
    exact ⟨es, t, hrun, hc, ht, trivial⟩
  | proceed hl hr => exact listener (reaches_proceed h hl hr)
  | dial hl => exact listener (reaches_dial h hl)
  | opened hl => exact listener (reaches_opened h hs hl (.ok ()))
  | unopened hl err => exact listener (reaches_opened h hs hl (.error err))
  | received hl f => exact listener (reaches_received h hs hl (.ok f))
  | ended hl err => exact listener (reaches_received h hs hl (.error err))
  | handled hl => exact listener (reaches_handled h hl)
  | taken hl hq => exact listener (reaches_taken h hs hl hq)
  | stop hc hl => exact listener (reaches_stop h hs hc hl)

/-- **So is a row of events**: whatever holds in the end of all rows of steps holds of the channel, too. -/
theorem exists_run_of_run {es : List Channel.Event} (h : Represents c s) (hs : Sound s)
    (hes : Balanced (unreturned s) es) (hrun : Channel.run c es = some c') :
    ∃ es' s', run s es' = some s' ∧ Represents c' s' := by
  induction es generalizing c s with
  | nil =>
    cases hrun
    exact ⟨[], s, rfl, h⟩
  | cons e es ih =>
    rw [Channel.run, Option.bind_eq_some_iff] at hrun
    obtain ⟨⟨c₁, r⟩, he, hrun⟩ := hrun
    obtain ⟨es₁, s₁, hrun₁, hc, hn, -⟩ := exists_run_of_react h hs he hes.1
    have hs₁ : Sound s₁ := run_preserves Sound.moves hrun₁ hs
    obtain ⟨es₂, s₂, hrun₂, hc'⟩ := ih hc hs₁ (hn ▸ hes.2) hrun
    exact ⟨es₁ ++ es₂, s₂, by rw [run_append, hrun₁, Option.bind_some, hrun₂], hc'⟩

theorem exists_run_of_new {limit : Nat} {es : List Channel.Event} (hes : Balanced 0 es)
    (hrun : Channel.run { limit := limit } es = some c) :
    ∃ es' s, run { limit := limit } es' = some s ∧ Represents c s :=
  exists_run_of_run (represents_new limit) (sound_new limit) hes hrun

end Custodian.Interleaved
