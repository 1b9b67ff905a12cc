import Custodian.Proofs.Interleaved

/-!
# The end of a channel

* `Dropped` : a listener that has ended leaves no stream behind that it has not handed over;
* `Ended`, `Ended.moves` : a channel whose listener has ended and that was stopped by its owner stays as it is;
* `Closed`, `Rejected` : if nobody reads from the stream that callers reach, whoever sends a frame is refused;
  `refusing_iff` : and only then;
* `Stopping` : what the first who shuts a channel down can rely on until the listener has ended;
* `shutdown_returns` : it can always return; `shutdown_complete` : the channel that it leaves behind, and when its
  callers are refused; `accepted_after_shutdown` : they need not be.
-/

namespace Custodian.Interleaved

set_option autoImplicit false

variable {s s' : Interleaved} {e : Event}

/-! ## Streams that nobody reads -/

theorem Turns.unread {c d : Call} {k : Nat} (ht : Turns s s' k c d) (h : c.queue.receiving = false) :
    d.queue.receiving = false := by
  cases ht with
  | queued hpush hq =>
    rw [Queue.push_closed _ h] at hpush
    cases hpush
  | taken hw hq => exact (Queue.receiving_pop _).trans h
  | released hq => rfl
  | _ => exact h

/-- Without a listener no stream is made. -/
theorem exists_turns (hs : Sound s) (hm : Moves s e s') (hl : s.position.running = false)
    (habsent : s.position = .absent → s.cancelled = true) {k : Nat} {c : Call} (hc : s'.calls[k]? = some c) :
    ∃ b, s.calls[k]? = some b ∧ Turns s s' k b c := by
  rcases origin_of_getElem? hs.placed hs.held hm hc with h | ⟨rfl, hnil, -⟩ | ⟨-, hrenewing, -⟩
  · exact h
  · cases hm with
    | establish he hcancel =>
      have hcancelled := habsent (by simpa [he] using hs.held hcancel)
      rw [hcancel] at hcancelled
      cases hcancelled
    | unestablished =>
      rw [hnil] at hc
      cases hc
  · rw [hrenewing] at hl
    cases hl

/-- Nobody reads from the stream of a call any more. -/
def Unread (s : Interleaved) (k : Nat) : Prop := ∀ c : Call, s.calls[k]? = some c → c.queue.receiving = false

/-- When the listener has ended, nobody has the streams of the calls that it has not opened. -/
def Dropped (s : Interleaved) : Prop := s.position = .gone → ∀ k, s.opened ≤ k → Unread s k

theorem Dropped.stop (hp : Placed s) (hw : s.position.waits = true) : Dropped s.stop := by
  intro _ k hk c hc
  have hlt : k < s.calls.length := length_calls_stop s ▸ (List.getElem?_eq_some_iff.1 hc).1
  rw [getElem?_stop (List.getElem?_eq_getElem hlt)] at hc
  cases hc
  -- the only call that was not opened is the one whose stream goes with the listener
  have hlast : s.position.unopened = some k := by
    replace hk : s.opened ≤ k := hk
    cases hunopened : s.position.unopened with
    | some j =>
      have hj := hp.of_unopened hunopened
      congr 1
      omega
    | none =>
      obtain ⟨j, hj⟩ : ∃ j, s.position.call = some j := by
        cases hl : s.position <;> rw [hl] at hw hunopened <;> cases hw <;> cases hunopened <;> exact ⟨_, rfl⟩
      have hlen := hp.of_call hj
      omega
  rw [if_pos hlast]
  rfl

theorem Dropped.moves (h : Dropped s) (hs : Sound s) (hm : Moves s e s') : Dropped s' := by
  have hback (hgone : s.position = .gone) {k : Nat} (hk : s.opened ≤ k) : Unread s' k := by
    intro c hc
    obtain ⟨b, hb, ht⟩ := exists_turns hs hm (by rw [hgone]; rfl) (by simp [hgone]) hc
    exact ht.unread (h hgone k hk b hb)
  cases hm with
  | stop hcancel hw => exact Dropped.stop hs.placed hw
  | leave hl =>
    intro _ k hk c hc
    have hlt := (List.getElem?_eq_some_iff.1 hc).1
    have hp := hs.placed
    rw [Placed, hl] at hp
    replace hlt : k < s.calls.length := hlt
    replace hk : s.opened ≤ k := hk
    omega
  | establish | proceed | dial | opened | unopened | received | ended | handled | exhausted | again | renew | publish =>
    intro hgone
    cases hgone
  | _ => exact fun hgone k hk => hback hgone hk

theorem dropped_of_run {limit : Nat} {es : List Event} (hrun : run { limit := limit } es = some s) :
    Sound s ∧ Dropped s :=
  run_preserves (P := fun s => Sound s ∧ Dropped s) (fun h hm => ⟨h.1.moves hm, h.2.moves h.1 hm⟩) hrun
    ⟨sound_new limit, by simp [Dropped]⟩

/-! ## A channel that was stopped -/

/-- The owner has stopped the channel, and no listener runs. -/
structure Ended (s : Interleaved) : Prop where
  cancelled : s.cancelled = true
  established : s.established = false
  listener : s.position.running = false
  status : s.status = .stopped .shutdown

/-- Nothing happens to a channel that was stopped, whatever callers and the other sides of its calls do. -/
theorem Ended.moves (h : Ended s) (hm : Moves s e s') : Ended s' ∧ s'.opened = s.opened ∧ s'.handed = s.handed := by
  obtain ⟨hcancelled, hestablished, hlistener, hstatus⟩ := h
  cases hm with
  | establish he hc =>
    rw [hc] at hcancelled
    cases hcancelled
  | close => exact ⟨⟨rfl, rfl, hlistener, rfl⟩, rfl, rfl⟩
  | beginShutdown => exact ⟨⟨rfl, rfl, hlistener, hstatus⟩, rfl, rfl⟩
  | endShutdown => exact ⟨⟨hcancelled, hestablished, hlistener, rfl⟩, rfl, rfl⟩
  | proceed hl | dial hl | opened hl | unopened hl | received hl | ended hl | handled hl | exhausted hl | again hl
  | leave hl | renew hl | publish hl =>
    rw [hl] at hlistener
    cases hlistener
  | stop hc hw =>
    cases hl : s.position <;> simp [hl, Position.waits, Position.running] at hw hlistener
  | _ => exact ⟨⟨hcancelled, hestablished, hlistener, hstatus⟩, rfl, rfl⟩

theorem Ended.run (h : Ended s) {es : List Event} (hrun : s.run es = some s') :
    Ended s' ∧ s'.opened = s.opened ∧ s'.handed = s.handed := by
  refine run_preserves (P := fun t => Ended t ∧ t.opened = s.opened ∧ t.handed = s.handed) ?_ hrun ⟨h, rfl, rfl⟩
  rintro t e t' ⟨ht, hopened, hhanded⟩ hm
  obtain ⟨ht', hopened', hhanded'⟩ := ht.moves hm
  exact ⟨ht', hopened'.trans hopened, hhanded'.trans hhanded⟩

theorem Ended.establish_eq (h : Ended s) :
    s.establish = (s, .refused (.streamError "control channel already established")) := by
  rw [establish, if_pos (.inr h.cancelled)]

theorem Unread.moves {k : Nat} (h : Unread s k) (hended : Ended s) (hs : Sound s) (hm : Moves s e s') :
    Unread s' k := by
  intro c hc
  obtain ⟨b, hb, ht⟩ := exists_turns hs hm hended.listener (fun _ => hended.cancelled) hc
  exact ht.unread (h b hb)

theorem Unread.not_pushed {k : Nat} (h : Unread s k) {c : Call} {f : AgentFrame} {q : Queue AgentFrame}
    (hc : s.calls[k]? = some c) : c.queue.push f ≠ (.accepted, q) := by
  intro hq
  have hr := (Queue.push_accepted hq).1
  rw [h c hc] at hr
  cases hr

/-- Nobody reads from any stream, and nothing is queued any more. -/
theorem queued_eq_of_unread (h : ∀ k, Unread s k) (hm : Moves s e s') : s'.queued = s.queued := by
  cases hm with
  | queue hi hc hq => exact absurd hq ((h _).not_pushed hc)
  | _ => rfl

theorem Ended.run_unread (h : Ended s) (hs : Sound s) (hunread : ∀ k, Unread s k) {es : List Event}
    (hrun : s.run es = some s') : (∀ k, Unread s' k) ∧ s'.queued = s.queued := by
  have hall : Sound s' ∧ Ended s' ∧ (∀ k, Unread s' k) ∧ s'.queued = s.queued := by
    refine run_preserves (P := fun t => Sound t ∧ Ended t ∧ (∀ k, Unread t k) ∧ t.queued = s.queued) ?_ hrun
      ⟨hs, h, hunread, rfl⟩
    rintro t e t' ⟨ht, hended, hu, hq⟩ hm
    exact ⟨ht.moves hm, (hended.moves hm).1, fun k => (hu k).moves hended ht hm, (queued_eq_of_unread hu hm).trans hq⟩
  exact hall.2.2

/-! ## Sending to nobody -/

/-- Callers of a channel that was stopped reach no stream from which somebody reads. -/
structure Closed (s : Interleaved) : Prop where
  ended : Ended s
  unread : ∀ k, s.slot = some k → Unread s k

theorem slot_eq (h : Ended s) (hm : Moves s e s') : s'.slot = s.slot ∨ s'.slot = none := by
  have hlistener := h.listener
  cases hm with
  | establish he hc =>
    rw [h.cancelled] at hc
    cases hc
  | publish hl =>
    rw [hl] at hlistener
    cases hlistener
  | close | beginShutdown | exhausted => exact .inr rfl
  | _ => exact .inl rfl

theorem Ended.slot_run (h : Ended s) {es : List Event} (hrun : s.run es = some s') :
    s'.slot = s.slot ∨ s'.slot = none := by
  have hall : Ended s' ∧ (s'.slot = s.slot ∨ s'.slot = none) := by
    refine run_preserves (P := fun t => Ended t ∧ (t.slot = s.slot ∨ t.slot = none)) ?_ hrun ⟨h, .inl rfl⟩
    rintro t e t' ⟨ht, hslot⟩ hm
    refine ⟨(ht.moves hm).1, ?_⟩
    rcases slot_eq ht hm with heq | hnone
    · exact hslot.imp heq.trans heq.trans
    · exact .inr hnone
  exact hall.2

theorem Closed.moves (h : Closed s) (hs : Sound s) (hm : Moves s e s') : Closed s' := by
  refine ⟨(h.ended.moves hm).1, fun k hk => ?_⟩
  rcases slot_eq h.ended hm with hslot | hslot
  · exact (h.unread k (hslot ▸ hk)).moves h.ended hs hm
  · rw [hslot] at hk
    cases hk

/-- Somebody who sends a frame for which nobody waits: it has been refused, or it has not tried to queue it yet. -/
inductive Rejected (s : Interleaved) : Sender → Prop
  | holding {k : Nat} (h : Unread s k) (f : AgentFrame) : Rejected s (.holding k f)
  | offering {k : Nat} (h : Unread s k) (f : AgentFrame) : Rejected s (.offering k f false)
  | returned : Rejected s (.returned (.refused .streamClosed))

theorem getElem?_advance {i j : Nat} {x y : Sender} (h : (s.advance i x).senders[j]? = some y) :
    i = j ∧ y = x ∨ s.senders[j]? = some y := by
  replace h : (s.senders.set i x)[j]? = some y := h
  by_cases hij : i = j
  · subst hij
    have hlt := (List.getElem?_eq_some_iff.1 h).1
    rw [List.getElem?_set_self (by simpa using hlt)] at h
    cases h
    exact .inl ⟨rfl, rfl⟩
  · rw [List.getElem?_set_ne hij] at h
    exact .inr h

/-- Nobody gets further than that once the channel is closed. -/
theorem Closed.rejected (h : Closed s) (hs : Sound s) (hm : Moves s e s') {i : Nat}
    (hold : ∀ x, s.senders[i]? = some x → Rejected s x) : ∀ x, s'.senders[i]? = some x → Rejected s' x := by
  have hunread {k : Nat} (hk : Unread s k) : Unread s' k := hk.moves h.ended hs hm
  have hkept {x : Sender} (hx : s.senders[i]? = some x) : Rejected s' x := by
    cases hold x hx with
    | holding hk f => exact .holding (hunread hk) f
    | offering hk f => exact .offering (hunread hk) f
    | returned => exact .returned
  intro x hx
  cases hm with
  | send f =>
    replace hx : (s.senders ++ [_])[i]? = some x := hx
    rcases Nat.lt_or_ge i s.senders.length with hi | hi
    · rw [List.getElem?_append_left hi] at hx
      exact hkept hx
    · obtain ⟨-, rfl⟩ : i - s.senders.length = 0 ∧ _ = x := by
        simpa [List.getElem?_append_right hi, List.getElem?_singleton] using hx
      split
      · rename_i k hslot
        exact .holding (hunread (h.unread k hslot)) f
      · exact .returned
  | keep hj hf | pass hj hf =>
    rcases getElem?_advance hx with ⟨rfl, rfl⟩ | hx
    · cases hold _ hj with
      | holding hk => exact .offering (hunread hk) _
    · exact hkept hx
  | queue hj hc hq =>
    rcases getElem?_advance hx with ⟨rfl, rfl⟩ | hx
    · cases hold _ hj with
      | offering hk f => exact absurd hq (hk.not_pushed hc)
    · exact hkept hx
  | wait hj hc hr =>
    rcases getElem?_advance hx with ⟨rfl, rfl⟩ | hx
    · cases hold _ hj with
      | offering hk f =>
        rw [hk _ hc] at hr
        cases hr
    · exact hkept hx
  | refuse hj hc hr =>
    rcases getElem?_advance hx with ⟨-, rfl⟩ | hx
    · exact .returned
    · exact hkept hx
  | tell hj =>
    rcases getElem?_advance hx with ⟨rfl, rfl⟩ | hx
    · cases hold _ hj
    · exact hkept hx
  | giveUp hj =>
    rcases getElem?_advance hx with ⟨rfl, rfl⟩ | hx
    · cases hold _ hj
    · exact hkept hx
  | _ => exact hkept hx

/-- Whoever begins to send a frame to a closed channel. -/
theorem Closed.run_rejected (h : Closed s) (hs : Sound s) {es : List Event} (hrun : run s es = some s') {i : Nat}
    (hi : s.senders.length ≤ i) {x : Sender} (hx : s'.senders[i]? = some x) : Rejected s' x := by
  have hall : Sound s' ∧ Closed s' ∧ ∀ x, s'.senders[i]? = some x → Rejected s' x := by
    refine run_preserves (P := fun t => Sound t ∧ Closed t ∧ ∀ x, t.senders[i]? = some x → Rejected t x) ?_ hrun
      ⟨hs, h, fun x hx => ?_⟩
    · rintro t e t' ⟨ht, hc, hr⟩ hm
      exact ⟨ht.moves hm, hc.moves ht hm, hc.rejected ht hm hr⟩
    · rw [List.getElem?_eq_none hi] at hx
      cases hx
  exact hall.2.2 x hx

theorem react_offer_accepted {i k : Nat} {f : AgentFrame} {w : Bool} {c : Call} {q : Queue AgentFrame}
    (hi : s.senders[i]? = some (.offering k f w)) (hc : s.calls[k]? = some c) (hq : c.queue.push f = (.accepted, q)) :
    s.react (.offer i) =
      some { (s.setCall k { c with queue := q }).advance i (if f.isRegister then .telling else .returned .done) with
        queued := s.queued ++ [(k, f)] } := by
  simp only [react, hi, offer, hc, hq]

theorem react_offer_full {i k : Nat} {f : AgentFrame} {w : Bool} {c : Call} {q : Queue AgentFrame}
    (hi : s.senders[i]? = some (.offering k f w)) (hc : s.calls[k]? = some c) (hq : c.queue.push f = (.full, q)) :
    s.react (.offer i) = some (s.advance i (.offering k f true)) := by
  simp only [react, hi, offer, hc, hq]

theorem offer_eq_of_unread (hs : Sound s) {i k : Nat} {f : AgentFrame} (hk : Unread s k)
    (hx : s.senders[i]? = some (.offering k f false)) :
    s.react (.offer i) = some (s.advance i (.returned (.refused .streamClosed))) := by
  have hlt := hs.bounded.sender _ (List.mem_of_getElem? hx) k rfl
  have hc := List.getElem?_eq_getElem hlt
  simp only [react, hx, offer, hc, Queue.push_closed f (hk _ hc)]

theorem getElem?_advance_self {i : Nat} {x y : Sender} (h : s.senders[i]? = some x) :
    (s.advance i y).senders[i]? = some y :=
  List.getElem?_set_self (List.getElem?_eq_some_iff.1 h).1

/-- Who sends a frame for which nobody waits is refused after at most two steps. -/
theorem Rejected.refused (hended : Ended s) (hs : Sound s) {i : Nat} {x : Sender} (hx : s.senders[i]? = some x)
    (hr : Rejected s x) :
    ∃ es t, (∀ e ∈ es, e = .keep i ∨ e = .offer i) ∧ run s es = some t ∧
      t.senders[i]? = some (.returned (.refused .streamClosed)) := by
  cases hr with
  | returned => exact ⟨[], s, by simp, rfl, hx⟩
  | offering hk f =>
    exact ⟨[.offer i], _, by simp, run_cons (offer_eq_of_unread hs hk hx) [], getElem?_advance_self hx⟩
  | @holding k hk f =>
    have hkeep : s.react (.keep i) = some (s.keep i k f) := by simp only [react, hx]
    have hm := moves_of_react hkeep
    have hx' : (s.keep i k f).senders[i]? = some (.offering k f false) := by
      unfold keep
      split_ifs <;> exact getElem?_advance_self hx
    refine ⟨[.keep i, .offer i], _, by simp, ?_, getElem?_advance_self hx'⟩
    rw [run_cons hkeep]
    exact run_cons (offer_eq_of_unread (hs.moves hm) (hk.moves hended hs hm) hx') []

/-- Whoever begins to send a frame from here on is refused, after at most two steps of its own. -/
def Refusing (s : Interleaved) : Prop :=
  ∀ es s', run s es = some s' → ∀ i x, s.senders.length ≤ i → s'.senders[i]? = some x →
    (∀ r, x = .returned r → r = .refused .streamClosed) ∧
      ∃ es' t, (∀ e ∈ es', e = .keep i ∨ e = .offer i) ∧ run s' es' = some t ∧
        t.senders[i]? = some (.returned (.refused .streamClosed))

theorem Closed.refusing (h : Closed s) (hs : Sound s) : Refusing s := by
  intro es s' hrun i x hi hx
  have hrejected := h.run_rejected hs hrun hi hx
  refine ⟨?_, hrejected.refused (h.ended.run hrun).1 (run_preserves Sound.moves hrun hs) hx⟩
  rintro r rfl
  cases hrejected with
  | returned => rfl

/-- Who sends a frame for a stream from which somebody reads is not refused: the frame is queued, or there is no room
for it and its sender gives up. -/
theorem Refusing.unread (h : Refusing s) {k : Nat} (hk : s.slot = some k) : Unread s k := by
  intro c hc
  -- somebody sends an empty frame and comes to queue it
  let i := s.senders.length
  let t := (s.send {}).advance i (.offering k {} false)
  have hholding : (s.send {}).senders[i]? = some (.holding k {}) := by simp [send, hk, i]
  have hoffering : t.senders[i]? = some (.offering k {} false) := getElem?_advance_self hholding
  have hrun (es : List Event) : run s (.send {} :: .keep i :: es) = run t es := by
    have hkeep : (s.send {}).react (.keep i) = some t := by
      simp only [react, hholding]
      rfl
    rw [run_cons rfl, run_cons hkeep]
  have hnot {es : List Event} {t' : Interleaved} {r : Channel.Reply} (ht : run t es = some t')
      (hr : t'.senders[i]? = some (.returned r)) : r = .refused .streamClosed :=
    (h _ t' ((hrun es).trans ht) i _ le_rfl hr).1 r rfl
  rcases hq : c.queue.push {} with ⟨_ | _ | _, q⟩
  · have haccepted := run_cons (react_offer_accepted hoffering hc hq) []
    cases hnot haccepted (getElem?_advance_self hoffering)
  · have hfull := react_offer_full hoffering hc hq
    have hwaiting : (t.advance i (.offering k {} true)).senders[i]? = some (.offering k {} true) :=
      getElem?_advance_self hoffering
    have hgiveUp : (t.advance i (.offering k {} true)).react (.giveUp i) =
        some ((t.advance i (.offering k {} true)).advance i (.returned .pending)) := by
      simp only [react, hwaiting]
    cases hnot ((run_cons hfull [.giveUp i]).trans (run_cons hgiveUp [])) (getElem?_advance_self hwaiting)
  · exact (Queue.push_refused hq).1

/-- The callers of a channel that was stopped are refused just if nobody reads from the stream that they reach. -/
theorem refusing_iff (hended : Ended s) (hs : Sound s) : Refusing s ↔ ∀ k, s.slot = some k → Unread s k :=
  ⟨fun h _ hk => h.unread hk, fun h => Closed.refusing ⟨hended, h⟩ hs⟩

/-! ## Shutting down -/

/-- Somebody has begun to shut the channel down before anybody else did: it waits for the listener if there is one. -/
structure Stopping (s : Interleaved) (joins : Bool) : Prop where
  cancelled : s.cancelled = true
  established : s.established = false
  first : ∃ returned, s.shutdowns[0]? = some ⟨joins, returned⟩
  absent : joins = false → s.position = .absent

theorem Stopping.moves {joins : Bool} (h : Stopping s joins) (hm : Moves s e s') : Stopping s' joins := by
  obtain ⟨hcancelled, hestablished, ⟨returned, hfirst⟩, habsent⟩ := h
  cases hm with
  | establish he hc =>
    rw [hc] at hcancelled
    cases hcancelled
  | close => exact ⟨rfl, rfl, ⟨returned, hfirst⟩, habsent⟩
  | beginShutdown =>
    refine ⟨rfl, rfl, ⟨returned, ?_⟩, habsent⟩
    exact (List.getElem?_append_left (List.getElem?_eq_some_iff.1 hfirst).1).trans hfirst
  | @endShutdown i j hi hj =>
    refine ⟨hcancelled, hestablished, ?_, habsent⟩
    show ∃ r, (s.shutdowns.set i ⟨j, true⟩)[0]? = some ⟨joins, r⟩
    cases i with
    | zero =>
      cases hi.symm.trans hfirst
      exact ⟨true, List.getElem?_set_self (List.getElem?_eq_some_iff.1 hfirst).1⟩
    | succ i => exact ⟨returned, (List.getElem?_set_ne (by omega)).trans hfirst⟩
  | proceed hl | dial hl | opened hl | unopened hl | received hl | ended hl | handled hl | exhausted hl | again hl
  | leave hl | renew hl | publish hl =>
    refine ⟨hcancelled, hestablished, ⟨returned, hfirst⟩, fun hj => ?_⟩
    rw [hl] at habsent
    cases habsent hj
  | stop hc hw =>
    refine ⟨hcancelled, hestablished, ⟨returned, hfirst⟩, fun hj => ?_⟩
    rw [habsent hj] at hw
    cases hw
  | _ => exact ⟨hcancelled, hestablished, ⟨returned, hfirst⟩, habsent⟩

/-- Nobody has shut the channel down. -/
theorem not_cancelled_of_run {limit : Nat} {es : List Event} (hrun : run { limit := limit } es = some s)
    (hes : ∀ e ∈ es, e ≠ .close ∧ e ≠ .beginShutdown) : s.cancelled = false ∧ s.shutdowns = [] := by
  refine run_induction
    (P := fun es s => (∀ e ∈ es, e ≠ .close ∧ e ≠ .beginShutdown) → s.cancelled = false ∧ s.shutdowns = [])
    (fun _ => ⟨rfl, rfl⟩) ?_ hrun hes
  intro es e s₁ s₂ hrun ih hm hes
  obtain ⟨hcancelled, hnil⟩ := ih fun e he => hes e (List.mem_append_left _ he)
  have he := hes e (List.mem_append_right _ (List.mem_singleton_self e))
  cases hm with
  | close => exact absurd rfl he.1
  | beginShutdown => exact absurd rfl he.2
  | endShutdown hi hj =>
    rw [hnil] at hi
    cases hi
  | _ => exact ⟨hcancelled, hnil⟩

/-- The listener can come to its end, whatever else happens in the meantime. -/
def CanEnd (s : Interleaved) : Prop := ∃ es t, run s es = some t ∧ t.position = .gone ∧ t.shutdowns = s.shutdowns

theorem CanEnd.of_react (he : s.react e = some s') (hkept : s'.shutdowns = s.shutdowns) (h : CanEnd s') : CanEnd s := by
  obtain ⟨es, t, hrun, hgone, hshutdowns⟩ := h
  exact ⟨e :: es, t, (run_cons he es).trans hrun, hgone, hshutdowns.trans hkept⟩

theorem canEnd_of_waits (hc : s.cancelled = true) (hw : s.position.waits = true) : CanEnd s := by
  have hstop : s.react .stop = some s.stop := by rw [react, if_pos ⟨hc, hw⟩]
  exact .of_react hstop rfl ⟨[], s.stop, rfl, rfl, rfl⟩

theorem canEnd_of_renewing (hc : s.cancelled = true) (hl : s.position = .renewing) : CanEnd s := by
  have hrenew : s.react .renew = some s.renew := by rw [react, if_pos hl]
  refine .of_react hrenew rfl (.of_react (e := .publish) rfl rfl ?_)
  exact canEnd_of_waits hc rfl

theorem canEnd_of_running (hc : s.cancelled = true) (hl : s.position.running = true) : CanEnd s := by
  cases hp : s.position with
  | absent | gone =>
    rw [hp] at hl
    cases hl
  | waiting | dialing k | opening k | reading k | handling k f => exact canEnd_of_waits hc (by rw [hp]; rfl)
  | failed =>
    have hjudge : s.react .judge = some s.judge := by rw [react, if_pos hp]
    unfold judge at hjudge
    split_ifs at hjudge with hr
    · exact .of_react hjudge rfl (.of_react (e := .leave) rfl rfl ⟨[], _, rfl, rfl, rfl⟩)
    · exact .of_react hjudge rfl (canEnd_of_renewing hc rfl)
  | leaving =>
    have hleave : s.react .leave = some { s with status := .stopped .registrationExhausted, position := .gone } := by
      rw [react, if_pos hp]
    exact .of_react hleave rfl ⟨[], _, rfl, rfl, rfl⟩
  | renewing => exact canEnd_of_renewing hc hp
  | publishing k =>
    have hpublish : s.react .publish = some { s with slot := some k, position := .dialing k } := by
      simp only [react, hp]
    exact .of_react hpublish rfl (canEnd_of_waits hc rfl)

/-- Nobody who shuts a channel down has to wait for ever. -/
theorem shutdown_returns (hc : s.cancelled = true) {i : Nat} {joins : Bool}
    (hi : s.shutdowns[i]? = some ⟨joins, false⟩) : ∃ es t, run s (es ++ [.endShutdown i]) = some t := by
  have hends : ∃ es t, run s es = some t ∧ t.position.running = false ∧ t.shutdowns = s.shutdowns := by
    cases hl : s.position.running with
    | false => exact ⟨[], s, rfl, hl, rfl⟩
    | true =>
      obtain ⟨es, t, hrun, hgone, hkept⟩ := canEnd_of_running hc hl
      exact ⟨es, t, hrun, by rw [hgone]; rfl, hkept⟩
  obtain ⟨es, t, hrun, hl, hkept⟩ := hends
  refine ⟨es, { t.markStopped with shutdowns := t.shutdowns.set i ⟨joins, true⟩ }, ?_⟩
  rw [run_append, hrun, Option.bind_some, run, react, hkept, hi]
  simp [hl, run]

/-- Once a channel is cancelled, callers reach a stream again only if the listener lets them. -/
theorem slot_of_run (hc : s.cancelled = true) (hslot : s.slot = none) {es : List Event} (hes : .publish ∉ es)
    (hrun : run s es = some s') : s'.slot = none := by
  have hall : s'.cancelled = true ∧ s'.slot = none := by
    refine run_induction (P := fun es t => .publish ∉ es → t.cancelled = true ∧ t.slot = none)
      (fun _ => ⟨hc, hslot⟩) ?_ hrun hes
    intro es e t t' _ ih hm hes
    rw [List.mem_append, not_or] at hes
    obtain ⟨hcancelled, hnone⟩ := ih hes.1
    cases hm with
    | establish he hcancel =>
      rw [hcancel] at hcancelled
      cases hcancelled
    | publish => exact absurd (List.mem_singleton_self _) hes.2
    | close | beginShutdown => exact ⟨rfl, rfl⟩
    | exhausted => exact ⟨hcancelled, rfl⟩
    | _ => exact ⟨hcancelled, hnone⟩
  exact hall.2

/-- The first who shuts a channel down returns when the listener has ended. The streams that it had not handed over are
gone with it, and callers reach none unless the listener has let them since. -/
theorem ended_of_shutdown {limit : Nat} {es₁ es₂ : List Event} (hfirst : ∀ e ∈ es₁, e ≠ .close ∧ e ≠ .beginShutdown)
    (hrun : run { limit := limit } (es₁ ++ .beginShutdown :: (es₂ ++ [.endShutdown 0])) = some s) :
    Ended s ∧ (∀ k, s.opened ≤ k → Unread s k) ∧ (.publish ∉ es₂ → s.slot = none) := by
  have hall := dropped_of_run hrun
  rw [run_append, Option.bind_eq_some_iff] at hrun
  obtain ⟨s₁, hrun₁, hrun⟩ := hrun
  rw [run, Option.bind_eq_some_iff] at hrun
  obtain ⟨s₂, hbegin, hrun⟩ := hrun
  have hslot (hes : .publish ∉ es₂) : s.slot = none := by
    cases hbegin
    exact slot_of_run rfl rfl (by simpa using hes) hrun
  rw [run_append, Option.bind_eq_some_iff] at hrun
  obtain ⟨s₃, hrun₂, hrun⟩ := hrun
  rw [run, Option.bind_eq_some_iff] at hrun
  obtain ⟨s₄, hend, hnil⟩ := hrun
  cases hnil
  obtain ⟨hcancelled, hnone⟩ := not_cancelled_of_run hrun₁ hfirst
  -- until then the channel held its listener as soon as there was one, so whoever cancels first joins it
  have hheld := (sound_of_run hrun₁).held hcancelled
  have hstopping : Stopping s₃ s₁.established := by
    refine run_preserves (P := fun s => Stopping s s₁.established) Stopping.moves hrun₂ ?_
    cases hbegin
    refine ⟨rfl, rfl, ⟨false, by simp [hnone]⟩, fun h => ?_⟩
    show s₁.position = .absent
    simpa [h] using hheld
  have hended : Ended s := by
    obtain ⟨returned, hzero⟩ := hstopping.first
    cases moves_of_react hend with
    | endShutdown hi hj =>
      cases hi.symm.trans hzero
      refine ⟨hstopping.cancelled, hstopping.established, ?_, rfl⟩
      cases hjoins : s₁.established with
      | false => exact (congrArg Position.running (hstopping.absent hjoins)).trans rfl
      | true => exact hj hjoins
  refine ⟨hended, fun k hk c hc => ?_, hslot⟩
  -- a call that was not opened: its stream went with the listener
  have hplaced := hall.1.placed
  have hlistener := hended.listener
  cases hl : s.position <;> simp only [hl, Position.running] at hlistener
  case absent =>
    rw [Placed, hl] at hplaced
    rw [hplaced.1] at hc
    cases hc
  case gone => exact hall.2 hl k hk c hc
  all_goals cases hlistener

/-- **What a shutdown leaves behind.** In whatever order callers, the listener and the other sides take their steps:
when the first who shuts a channel down has returned, the channel is stopped for ever, no call is opened and no frame is
handed over any more, it cannot be established again and its callers reach no other stream. They reach none at all
unless the listener has let them reach one after the channel was cancelled, and they are refused for ever just if nobody
reads from it. When the other sides have let go of all streams that they were given, nothing can be written any more. -/
theorem shutdown_complete (limit : Nat) (es₁ es₂ : List Event) (s : Interleaved)
    (hfirst : ∀ e ∈ es₁, e ≠ .close ∧ e ≠ .beginShutdown)
    (hrun : run { limit := limit } (es₁ ++ .beginShutdown :: (es₂ ++ [.endShutdown 0])) = some s) :
    (∀ es₃ s', run s es₃ = some s' → s'.status = .stopped .shutdown ∧ s'.opened = s.opened ∧ s'.handed = s.handed ∧
      s'.establish = (s', .refused (.streamError "control channel already established")) ∧
        (s'.slot = s.slot ∨ s'.slot = none)) ∧
      (.publish ∉ es₂ → s.slot = none) ∧ (Refusing s ↔ ∀ k, s.slot = some k → Unread s k) ∧
      ((∀ k < s.opened, Unread s k) → ∀ es₃ s', run s es₃ = some s' → (∀ k, Unread s' k) ∧ s'.queued = s.queued) := by
  obtain ⟨hended, hdropped, hslot⟩ := ended_of_shutdown hfirst hrun
  have hs := sound_of_run hrun
  refine ⟨fun es₃ s' hlater => ?_, hslot, refusing_iff hended hs, fun hopened es₃ s' hlater => ?_⟩
  · obtain ⟨hended', hopened, hhanded⟩ := hended.run hlater
    exact ⟨hended'.status, hopened, hhanded, hended'.establish_eq, hended.slot_run hlater⟩
  · refine hended.run_unread hs (fun k => ?_) hlater
    exact (Nat.lt_or_ge k s.opened).elim (hopened k) (hdropped k)

/-- The listener has made another stream and handed it over after the channel was cancelled, and the other side has let
go of it. -/
theorem shutdown_complete_of_renewed :
    let register : AgentFrame := { body := some (.register {}) }
    let es₁ : List Event :=
      [.establish, .send register, .keep 0, .offer 0, .tell 0, .proceed, .dial, .answer (.ok ()),
        .arrive 0 (.error .streamClosed)]
    let es₂ : List Event :=
      [.receive, .judge, .renew, .publish, .dial, .answer (.ok ()), .stop, .release 0, .release 1]
    ∃ s, run { limit := 1 } (es₁ ++ .beginShutdown :: (es₂ ++ [.endShutdown 0])) = some s ∧
      s.status = .stopped .shutdown ∧ s.slot = some 1 ∧ Refusing s ∧
      ∀ es₃ s', run s es₃ = some s' → s'.opened = s.opened ∧ s'.queued = s.queued := by
  intro register es₁ es₂
  have hend : ((run { limit := 1 } (es₁ ++ .beginShutdown :: (es₂ ++ [.endShutdown 0]))).map fun s =>
      (s.slot, s.calls.map fun c => c.queue.receiving)) = some (some 1, [false, false]) := by decide
  obtain ⟨s, hrun, hs⟩ := Option.map_eq_some_iff.1 hend
  obtain ⟨hslot, hreceiving⟩ : s.slot = some 1 ∧ (s.calls.map fun c => c.queue.receiving) = [false, false] := by
    simpa using hs
  have hunread (k : Nat) : Unread s k := by
    intro c hc
    have hmem : c.queue.receiving ∈ s.calls.map fun c => c.queue.receiving :=
      List.mem_map_of_mem (List.mem_of_getElem? hc)
    rw [hreceiving] at hmem
    simpa using hmem
  obtain ⟨hfinal, -, hrefusing, hnothing⟩ := shutdown_complete 1 es₁ es₂ s (by simp [es₁]) hrun
  refine ⟨s, hrun, (hfinal [] s rfl).1, hslot, hrefusing.2 fun k _ => hunread k, fun es₃ s' hlater => ?_⟩
  exact ⟨(hfinal es₃ s' hlater).2.1, (hnothing (fun k _ => hunread k) es₃ s' hlater).2⟩

/-- Callers need not be refused after a shutdown. A call has failed when it begins; the listener goes on before it sees
the cancellation, lets callers reach another stream and hands it over to a side that does not let go of it. -/
theorem accepted_after_shutdown :
    let register : AgentFrame := { body := some (.register {}) }
    let es₁ : List Event :=
      [.establish, .send register, .keep 0, .offer 0, .tell 0, .proceed, .dial, .answer (.ok ()),
        .arrive 0 (.error .streamClosed)]
    let es₂ : List Event := [.receive, .judge, .renew, .publish, .dial, .answer (.ok ()), .stop]
    let es₃ : List Event := [.send register, .keep 1, .offer 1, .tell 1]
    ∃ s s', run { limit := 1 } (es₁ ++ .beginShutdown :: (es₂ ++ [.endShutdown 0])) = some s ∧
      s.status = .stopped .shutdown ∧ s.senders.length = 1 ∧ run s es₃ = some s' ∧
      s'.senders[1]? = some (.returned .done) ∧ s'.queued = s.queued ++ [(1, register)] := by
  intro register es₁ es₂ es₃
  exact ⟨_, _, rfl, rfl, rfl, rfl, rfl, rfl⟩

end Custodian.Interleaved
