import Custodian.Proofs.Closing
import Custodian.Proofs.Delivery

/-!
# After a channel is closed

Whoever closes a channel does not wait for the listener, and the listener shows where it stands without looking whether
the channel was cancelled.

* `Asleep` : a listener that nobody can wake up; one lemma for each step of a sender; `Resting` : a closed channel with
  such a listener;
* `Stirs` : another status may be shown; one lemma for each place of the listener, from its last steps backwards;
* `stays_stopped_iff` : a closed channel stays stopped just if its listener does not run or is asleep;
  `listening_after_close` : one that does not.
-/

namespace Custodian.Interleaved

set_option autoImplicit false

variable {s s' : Interleaved} {e : Event}

/-! ## A listener that is asleep -/

/-- The frame that somebody has to queue. -/
def Sender.frame : Sender → Option AgentFrame
  | .holding _ f | .offering _ f _ => some f
  | _ => none

/-- The stream of a call takes another frame. -/
def Call.Takes (c : Call) : Prop := c.queue.receiving = true ∧ c.queue.waiting.length < c.queue.capacity

/-- The listener waits for the first registration and will not hear of one: nobody is about to tell it, and whoever has
one to queue finds no room. -/
structure Asleep (s : Interleaved) : Prop where
  waiting : s.position = .waiting
  unready : s.ready = false
  untold : .telling ∉ s.senders
  blocked : ∀ x ∈ s.senders, ∀ f, x.frame = some f → f.isRegister = true → ∀ c, s.calls[0]? = some c → ¬c.Takes

theorem Asleep.of_eq (h : Asleep s) (hposition : s'.position = s.position) (hready : s'.ready = s.ready)
    (hsenders : s'.senders = s.senders) (hcalls : s'.calls = s.calls) : Asleep s' :=
  ⟨hposition.trans h.waiting, hready.trans h.unready, hsenders ▸ h.untold, hsenders ▸ hcalls ▸ h.blocked⟩

/-- Somebody comes further, and still has no other frame to queue. -/
theorem Asleep.advance (h : Asleep s) {i : Nat} {x y : Sender} (hi : s.senders[i]? = some x) (hy : y ≠ .telling)
    (hf : ∀ f, y.frame = some f → x.frame = some f) : Asleep (s.advance i y) := by
  refine ⟨h.waiting, h.unready, fun ht => ?_, fun z hz f hzf => ?_⟩
  · rcases List.mem_or_eq_of_mem_set ht with ht | ht
    · exact h.untold ht
    · exact hy ht.symm
  · rcases List.mem_or_eq_of_mem_set hz with hz | rfl
    · exact h.blocked z hz f hzf
    · exact h.blocked x (List.mem_of_getElem? hi) f (hf f hzf)

theorem Asleep.returned (h : Asleep s) {i : Nat} {x : Sender} (hi : s.senders[i]? = some x) (r : Channel.Reply) :
    Asleep (s.advance i (.returned r)) :=
  h.advance hi (by simp) (by simp [Sender.frame])

/-- Whoever begins to send a frame reaches no stream. -/
theorem Asleep.send (h : Asleep s) (hslot : s.slot = none) (f : AgentFrame) : Asleep (s.send f) := by
  have hsenders : (s.send f).senders = s.senders ++ [.returned (.refused .streamClosed)] := by
    rw [Interleaved.send, hslot]
  refine ⟨h.waiting, h.unready, fun ht => ?_, fun x hx f' hf' => ?_⟩
  · rw [hsenders] at ht
    simp [h.untold] at ht
  · rw [hsenders, List.mem_append, List.mem_singleton] at hx
    rcases hx with hx | rfl
    · exact h.blocked x hx f' hf'
    · cases hf'

/-- A frame that finds room is no registration, and then nobody has one to queue. -/
theorem Asleep.queue (h : Asleep s) {i : Nat} {f : AgentFrame} {w : Bool} {c : Call} {q : Queue AgentFrame}
    (hi : s.senders[i]? = some (.offering 0 f w)) (hc : s.calls[0]? = some c)
    (hq : c.queue.push f = (.accepted, q)) :
    Asleep ((s.setCall 0 { c with queue := q }).advance i (if f.isRegister then .telling else .returned .done)) := by
  obtain ⟨hr, hw⟩ := Queue.push_accepted hq
  have hroom := Queue.lt_capacity_of_push hq
  have hf : f.isRegister = false := by
    by_contra hf
    exact h.blocked _ (List.mem_of_getElem? hi) f rfl (by simpa using hf) c hc ⟨hr, hroom⟩
  rw [hf, if_neg Bool.false_ne_true]
  have hset : Asleep (s.setCall 0 { c with queue := q }) := by
    refine ⟨h.waiting, h.unready, h.untold, fun x hx f' hf' hr' d hd _ => ?_⟩
    exact h.blocked x hx f' hf' hr' c hc ⟨hr, hroom⟩
  exact hset.returned hi .done

/-- A closed channel whose listener is asleep. -/
structure Resting (s : Interleaved) : Prop where
  cancelled : s.cancelled = true
  established : s.established = false
  slot : s.slot = none
  status : s.status = .stopped .shutdown
  asleep : Asleep s

/-- Nothing wakes the listener up; it may still see that the channel is cancelled. -/
theorem Resting.moves (h : Resting s) (hs : Sound s) (hm : Moves s e s') : Resting s' ∨ Ended s' := by
  obtain ⟨hcancelled, hestablished, hslot, hstatus, hasleep⟩ := h
  have hplaced := hs.placed
  rw [Placed, hasleep.waiting] at hplaced
  cases hm with
  | establish he hc =>
    rw [hc] at hcancelled
    cases hcancelled
  | unestablished => exact .inl ⟨hcancelled, hestablished, hslot, hstatus, hasleep⟩
  | send f => exact .inl ⟨hcancelled, hestablished, hslot, hstatus, hasleep.send hslot f⟩
  | @keep i k f hi hf =>
    have hkept := hasleep.advance (y := .offering k f false) hi (by simp) fun _ => id
    exact .inl ⟨hcancelled, hestablished, hslot, hstatus, hkept.of_eq rfl rfl rfl rfl⟩
  | pass hi | wait hi =>
    exact .inl ⟨hcancelled, hestablished, hslot, hstatus, hasleep.advance hi (by simp) fun _ => id⟩
  | refuse hi | giveUp hi => exact .inl ⟨hcancelled, hestablished, hslot, hstatus, hasleep.returned hi _⟩
  | @queue i k f w c q hi hc hq =>
    -- there is only one call
    have hk : k < s.calls.length := (List.getElem?_eq_some_iff.1 hc).1
    obtain rfl : k = 0 := by omega
    exact .inl ⟨hcancelled, hestablished, hslot, hstatus, (hasleep.queue hi hc hq).of_eq rfl rfl rfl rfl⟩
  | tell hi => exact absurd (List.mem_of_getElem? hi) hasleep.untold
  | close => exact .inl ⟨rfl, rfl, rfl, rfl, hasleep.of_eq rfl rfl rfl rfl⟩
  | beginShutdown => exact .inl ⟨rfl, rfl, rfl, hstatus, hasleep.of_eq rfl rfl rfl rfl⟩
  | endShutdown => exact .inl ⟨hcancelled, hestablished, hslot, rfl, hasleep.of_eq rfl rfl rfl rfl⟩
  | proceed hl hr =>
    rw [hasleep.unready] at hr
    cases hr
  | stop hc hw => exact .inr ⟨hcancelled, hestablished, rfl, hstatus⟩
  | arrive hk | take hk | release hk => omega
  | dial hl | opened hl | unopened hl | received hl | ended hl | handled hl | exhausted hl | again hl | leave hl
  | renew hl | publish hl =>
    rw [hasleep.waiting] at hl
    cases hl

theorem Resting.run (h : Resting s) (hs : Sound s) {es : List Event} (hrun : s.run es = some s') :
    s'.status = .stopped .shutdown := by
  have hall : Sound s' ∧ (Resting s' ∨ Ended s') := by
    refine run_preserves (P := fun t => Sound t ∧ (Resting t ∨ Ended t)) ?_ hrun ⟨hs, .inl h⟩
    rintro t e t' ⟨ht, hr | he⟩ hm
    · exact ⟨ht.moves hm, hr.moves ht hm⟩
    · exact ⟨ht.moves hm, .inr (he.moves hm).1⟩
  exact hall.2.elim (·.status) (·.status)

/-- A channel whose listener has ended, or was never started, stays closed. -/
theorem stopped_after_close {es : List Event} (hl : s.position.running = false)
    (hrun : run s (.close :: es) = some s') : s'.status = .stopped .shutdown := by
  have hended : Ended s.cancel.markStopped := ⟨rfl, rfl, hl, rfl⟩
  exact (hended.run hrun).1.status

/-! ## A listener that goes on -/

/-- The channel may come to show that it is not shut down. -/
def Stirs (s : Interleaved) : Prop := ∃ es t, run s es = some t ∧ t.status ≠ .stopped .shutdown

theorem Stirs.of_react (he : s.react e = some s') (h : Stirs s') : Stirs s := by
  obtain ⟨es, t, hrun, ht⟩ := h
  exact ⟨e :: es, t, (run_cons he es).trans hrun, ht⟩

theorem stirs_of_opening {k : Nat} (hl : s.position = .opening k) (hk : k < s.calls.length) : Stirs s := by
  have hanswer : s.react (.answer (.ok ())) = some (s.answered k s.calls[k] (.ok ())) := by
    simp only [react, hl, List.getElem?_eq_getElem hk, Option.map_some]
  exact .of_react hanswer ⟨[], _, rfl, by simp [answered]⟩

theorem stirs_of_dialing {k : Nat} (hl : s.position = .dialing k) (hk : k < s.calls.length) : Stirs s := by
  have hdial : s.react .dial = some { s with position := .opening k, opened := s.opened + 1 } := by
    simp only [react, hl]
  exact .of_react hdial (stirs_of_opening rfl hk)

theorem stirs_of_publishing {k : Nat} (hl : s.position = .publishing k) (hk : k < s.calls.length) : Stirs s := by
  have hpublish : s.react .publish = some { s with slot := some k, position := .dialing k } := by
    simp only [react, hl]
  exact .of_react hpublish (stirs_of_dialing rfl hk)

theorem stirs_of_renewing (hl : s.position = .renewing) : Stirs s := by
  have hrenew : s.react .renew = some s.renew := by rw [react, if_pos hl]
  exact .of_react hrenew (stirs_of_publishing rfl (by simp [renew]))

theorem stirs_of_leaving (hl : s.position = .leaving) : Stirs s := by
  have hleave : s.react .leave = some { s with status := .stopped .registrationExhausted, position := .gone } := by
    rw [react, if_pos hl]
  exact .of_react hleave ⟨[], _, rfl, by simp⟩

theorem stirs_of_failed (hl : s.position = .failed) : Stirs s := by
  have hjudge : s.react .judge = some s.judge := by rw [react, if_pos hl]
  unfold judge at hjudge
  split_ifs at hjudge with hr
  · exact .of_react hjudge (stirs_of_leaving rfl)
  · exact .of_react hjudge ⟨[], _, rfl, by simp⟩

/-- A listener that reads comes to a failure that has come in. -/
theorem stirs_of_failing {k n : Nat} {c : Call} {x : Error} (hl : s.position = .reading k)
    (hc : s.calls[k]? = some c) (hn : c.inbound[c.read + n]? = some (.error x)) : Stirs s := by
  have hk : k < s.calls.length := (List.getElem?_eq_some_iff.1 hc).1
  induction n generalizing s c with
  | zero =>
    have hreceive : s.react .receive = some (s.read k c (.error x)) := by
      simp only [react, hl, hc, Option.bind_some, show c.inbound[c.read]? = some (.error x) from hn, Option.map_some]
    exact .of_react hreceive (stirs_of_failed rfl)
  | succ n ih =>
    have hlt : c.read < c.inbound.length := by
      have hlt := (List.getElem?_eq_some_iff.1 hn).1
      omega
    have hreceive : s.react .receive = some (s.read k c c.inbound[c.read]) := by
      simp only [react, hl, hc, Option.bind_some, List.getElem?_eq_getElem hlt, Option.map_some]
    refine .of_react hreceive ?_
    cases c.inbound[c.read] with
    | error x => exact stirs_of_failed rfl
    | ok f =>
      -- the handler returns, and the listener has one less to read
      refine .of_react (e := .handled) rfl (ih (c := { c with read := c.read + 1 }) rfl ?_ ?_ ?_)
      · exact List.getElem?_set_self hk
      · rwa [Nat.add_assoc, Nat.add_comm 1 n]
      · exact hk.trans_eq List.length_set.symm

theorem stirs_of_reading (hs : Sound s) (hd : Delivering s) {k : Nat} (hl : s.position = .reading k) : Stirs s := by
  obtain ⟨hlast, hopened⟩ := hs.placed.of_call (k := k) (by rw [hl]; rfl)
  have hk : k < s.calls.length := by omega
  have hc := List.getElem?_eq_getElem hk
  have hle := (hd.stands hc).read_le
  -- the other side lets the call fail
  have harrive : s.react (.arrive k (.error .streamClosed)) =
      some (s.setCall k { s.calls[k] with inbound := s.calls[k].inbound ++ [.error .streamClosed] }) := by
    simp only [react, atCall, hopened, Nat.lt_succ_self, if_true, hc, Option.bind_some, Option.map_some]
  refine .of_react harrive (stirs_of_failing (n := s.calls[k].inbound.length - s.calls[k].read) hl
    (List.getElem?_set_self hk) (x := .streamClosed) ?_)
  rw [Nat.add_sub_cancel' hle]
  exact List.getElem?_concat_length

theorem stirs_of_handling (hs : Sound s) (hd : Delivering s) {k : Nat} {f : OrchestratorFrame}
    (hl : s.position = .handling k f) : Stirs s := by
  have hhandled : s.react .handled = some { s with position := .reading k, returned := s.returned + 1 } := by
    simp only [react, hl]
  have hm := moves_of_react hhandled
  exact .of_react hhandled (stirs_of_reading (hs.moves hm) (hd.moves hs.placed hs.held hm) rfl)

theorem stirs_of_ready (hl : s.position = .waiting) (hr : s.ready = true) (hk : 0 < s.calls.length) : Stirs s := by
  have hproceed : s.react .proceed = some { s with ready := false, position := .dialing 0 } := by
    rw [react, if_pos ⟨hl, hr⟩]
  exact .of_react hproceed (stirs_of_dialing rfl hk)

theorem stirs_of_telling (hl : s.position = .waiting) (hk : 0 < s.calls.length) {i : Nat}
    (hi : s.senders[i]? = some .telling) : Stirs s := by
  have htell : s.react (.tell i) = some { s.advance i (.returned .done) with ready := true } := by
    simp only [react, hi]
  exact .of_react htell (stirs_of_ready hl rfl hk)

theorem stirs_of_offering (hl : s.position = .waiting) {i : Nat} {f : AgentFrame} {w : Bool} {c : Call}
    (hi : s.senders[i]? = some (.offering 0 f w)) (hf : f.isRegister = true) (hc : s.calls[0]? = some c)
    (htakes : c.Takes) : Stirs s := by
  have hk : 0 < s.calls.length := (List.getElem?_eq_some_iff.1 hc).1
  obtain ⟨hle, hq⟩ := Queue.push_room f htakes.1 htakes.2
  have hoffer := react_offer_accepted hi hc hq
  rw [if_pos hf] at hoffer
  refine .of_react hoffer (stirs_of_telling hl (hk.trans_eq List.length_set.symm) (i := i) ?_)
  exact getElem?_advance_self hi

theorem stirs_of_holding (hl : s.position = .waiting) {i : Nat} {f : AgentFrame} {c : Call}
    (hi : s.senders[i]? = some (.holding 0 f)) (hf : f.isRegister = true) (hc : s.calls[0]? = some c)
    (htakes : c.Takes) : Stirs s := by
  have hkeep : s.react (.keep i) = some { s.advance i (.offering 0 f false) with
      lastRegister := some f, kept := s.kept ++ [f] } := by
    simp only [react, hi, keep, if_pos hf]
  exact .of_react hkeep (stirs_of_offering hl (getElem?_advance_self hi) hf hc htakes)

/-- Somebody can wake up a listener that waits and is not asleep. -/
theorem stirs_of_waiting (hs : Sound s) (hl : s.position = .waiting) (h : ¬Asleep s) : Stirs s := by
  have hplaced := hs.placed
  rw [Placed, hl] at hplaced
  have hk : 0 < s.calls.length := by omega
  by_contra hnot
  refine h ⟨hl, ?_, fun ht => ?_, fun x hx f hxf hf c hc htakes => ?_⟩
  · by_contra hr
    exact hnot (stirs_of_ready hl (by simpa using hr) hk)
  · obtain ⟨i, hi⟩ := List.mem_iff_getElem?.1 ht
    exact hnot (stirs_of_telling hl hk hi)
  · obtain ⟨i, hi⟩ := List.mem_iff_getElem?.1 hx
    -- there is only one call
    have hfirst {k : Nat} (hxk : x.call = some k) : k = 0 := by
      have hlt := hs.bounded.sender x hx k hxk
      omega
    cases x with
    | holding k f' =>
      cases hxf
      obtain rfl := hfirst rfl
      exact hnot (stirs_of_holding hl hi hf hc htakes)
    | offering k f' w =>
      cases hxf
      obtain rfl := hfirst rfl
      exact hnot (stirs_of_offering hl hi hf hc htakes)
    | telling | returned r => cases hxf

theorem stirs_of_running (hs : Sound s) (hd : Delivering s) (hl : s.position.running = true) (h : ¬Asleep s) :
    Stirs s := by
  cases hp : s.position with
  | absent | gone =>
    rw [hp] at hl
    cases hl
  | waiting => exact stirs_of_waiting hs hp h
  | dialing k =>
    obtain ⟨hk, -⟩ := hs.placed.of_unopened (k := k) (by rw [hp]; rfl)
    exact stirs_of_dialing hp (by omega)
  | opening k =>
    obtain ⟨hk, -⟩ := hs.placed.of_call (k := k) (by rw [hp]; rfl)
    exact stirs_of_opening hp (by omega)
  | reading k => exact stirs_of_reading hs hd hp
  | handling k f => exact stirs_of_handling hs hd hp
  | failed => exact stirs_of_failed hp
  | leaving => exact stirs_of_leaving hp
  | renewing => exact stirs_of_renewing hp
  | publishing k =>
    obtain ⟨hk, -⟩ := hs.placed.of_unopened (k := k) (by rw [hp]; rfl)
    exact stirs_of_publishing hp (by omega)

/-! ## Closing without waiting -/

/-- **When a closed channel stays stopped.** Whatever has happened to a channel before it is closed, it shows for ever
that it was shut down, in whatever order callers, the listener and the other sides take their steps, just if its
listener does not run or waits for a registration that it will not hear of. -/
theorem stays_stopped_iff {limit : Nat} {es : List Event} (hrun : run { limit := limit } es = some s) :
    (∀ es' s', run s (.close :: es') = some s' → s'.status = .stopped .shutdown) ↔
      s.position.running = false ∨ Asleep s := by
  have hclosed : run { limit := limit } (es ++ [.close]) = some s.cancel.markStopped := by
    rw [run_append, hrun]
    rfl
  obtain ⟨hs, hd, -⟩ := delivering_of_run hclosed
  constructor
  · intro h
    by_contra hnot
    rw [not_or, Bool.not_eq_false] at hnot
    obtain ⟨es', t, ht, hstatus⟩ : Stirs s.cancel.markStopped := by
      exact stirs_of_running hs hd hnot.1 fun ha => hnot.2 (ha.of_eq rfl rfl rfl rfl)
    exact hstatus (h es' t ((run_cons rfl es').trans ht))
  · rintro (hl | ha) es' s' hrun'
    · exact stopped_after_close hl hrun'
    · have hresting : Resting s.cancel.markStopped := ⟨rfl, rfl, rfl, rfl, ha.of_eq rfl rfl rfl rfl⟩
      exact hresting.run hs ((run_cons rfl es').symm.trans hrun')

/-- A channel that was established and has not been used. -/
theorem stays_stopped_of_unused :
    ∃ s, run { limit := 1 } [.establish] = some s ∧ s.status = .connecting ∧
      ∀ es' s', run s (.close :: es') = some s' → s'.status = .stopped .shutdown := by
  have hrun : run { limit := 1 } [.establish] = some (establish { limit := 1 }).1 := rfl
  refine ⟨_, hrun, rfl, (stays_stopped_iff hrun).2 (.inr ?_)⟩
  exact ⟨rfl, rfl, List.not_mem_nil, fun _ hx => absurd hx List.not_mem_nil⟩

/-- A listener that has been told of a registration may go on when the channel is closed, open its call and show so, and
nobody shows the end of the channel again when it has ended. -/
theorem listening_after_close :
    let register : AgentFrame := { body := some (.register {}) }
    let es : List Event := [.establish, .send register, .keep 0, .offer 0, .tell 0]
    let es' : List Event := [.proceed, .dial, .answer (.ok ()), .stop]
    ∃ s s', run { limit := 1 } (es ++ [.close]) = some s ∧ s.status = .stopped .shutdown ∧ run s es' = some s' ∧
      s'.position = .gone ∧ s'.status = .listening := by
  intro register es es'
  exact ⟨_, _, rfl, rfl, rfl, rfl, rfl⟩

end Custodian.Interleaved
