import Custodian.Channel.Interleaved
import Mathlib.Tactic

/-!
# What the users of a channel can do

* `Interleaved.Moves` : the steps that are possible and what they lead to; `moves_of_react` : there are no others;
* `run_append`, `run_preserves`, `run_induction` : rows of steps, and what holds along them;
* `Placed`, `Held` : what the place of the listener tells of the calls, and what the channel holds tells of the listener;
* `Arises`, `Turns` : what a step makes of those who send and of a call; no call vanishes (`turns_of_getElem?`), and
  only two steps make one (`origin_of_getElem?`);
* `Sound` : what holds of every state that can be reached.
-/

namespace Custodian.Interleaved

set_option autoImplicit false

/-! ## One step -/

/-- What a step does. -/
inductive Moves (s : Interleaved) : Event → Interleaved → Prop
  | establish (h : s.established = false) (hc : s.cancelled = false) :
    Moves s .establish
      { s with
        slot := some 0
        calls := [{}]
        status := .connecting
        established := true
        position := .waiting }
  | unestablished (h : s.established = true ∨ s.cancelled = true) : Moves s .establish s
  | send (f : AgentFrame) : Moves s (.send f) (s.send f)
  | keep {i k : Nat} {f : AgentFrame} (h : s.senders[i]? = some (.holding k f)) (hf : f.isRegister = true) :
    Moves s (.keep i) { s.advance i (.offering k f false) with lastRegister := some f, kept := s.kept ++ [f] }
  | pass {i k : Nat} {f : AgentFrame} (h : s.senders[i]? = some (.holding k f)) (hf : f.isRegister = false) :
    Moves s (.keep i) (s.advance i (.offering k f false))
  | queue {i k : Nat} {f : AgentFrame} {w : Bool} {c : Call} {q : Queue AgentFrame}
    (h : s.senders[i]? = some (.offering k f w)) (hc : s.calls[k]? = some c)
    (hq : c.queue.push f = (.accepted, q)) :
    Moves s (.offer i)
      { (s.setCall k { c with queue := q }).advance i (if f.isRegister then .telling else .returned .done) with
        queued := s.queued ++ [(k, f)] }
  | wait {i k : Nat} {f : AgentFrame} {w : Bool} {c : Call} (h : s.senders[i]? = some (.offering k f w))
    (hc : s.calls[k]? = some c) (hr : c.queue.receiving = true) :
    Moves s (.offer i) (s.advance i (.offering k f true))
  | refuse {i k : Nat} {f : AgentFrame} {w : Bool} {c : Call} (h : s.senders[i]? = some (.offering k f w))
    (hc : s.calls[k]? = some c) (hr : c.queue.receiving = false) :
    Moves s (.offer i) (s.advance i (.returned (.refused .streamClosed)))
  | tell {i : Nat} (h : s.senders[i]? = some .telling) :
    Moves s (.tell i) { s.advance i (.returned .done) with ready := true }
  | giveUp {i k : Nat} {f : AgentFrame} (h : s.senders[i]? = some (.offering k f true)) :
    Moves s (.giveUp i) (s.advance i (.returned .pending))
  | close : Moves s .close s.cancel.markStopped
  | beginShutdown : Moves s .beginShutdown { s.cancel with shutdowns := s.shutdowns ++ [⟨s.established, false⟩] }
  | endShutdown {i : Nat} {joins : Bool} (h : s.shutdowns[i]? = some ⟨joins, false⟩)
    (hj : joins = true → s.position.running = false) :
    Moves s (.endShutdown i) { s.markStopped with shutdowns := s.shutdowns.set i ⟨joins, true⟩ }
  | proceed (h : s.position = .waiting) (hr : s.ready = true) :
    Moves s .proceed { s with ready := false, position := .dialing 0 }
  | dial {k : Nat} (h : s.position = .dialing k) :
    Moves s .dial { s with position := .opening k, opened := s.opened + 1 }
  | opened {k : Nat} {c : Call} (h : s.position = .opening k) (hc : s.calls[k]? = some c) :
    Moves s (.answer (.ok ()))
      { s.setCall k { c with answer := some (.ok ()) } with position := .reading k, status := .listening }
  | unopened {k : Nat} {c : Call} (h : s.position = .opening k) (hc : s.calls[k]? = some c) (e : Error) :
    Moves s (.answer (.error e)) { s.setCall k { c with answer := some (.error e) } with position := .failed }
  | received {k : Nat} {c : Call} {f : OrchestratorFrame} (h : s.position = .reading k) (hc : s.calls[k]? = some c)
    (hr : c.inbound[c.read]? = some (.ok f)) :
    Moves s .receive
      { s.setCall k { c with read := c.read + 1 } with
        position := .handling k f
        retries := 0
        handed := s.handed ++ [f] }
  | ended {k : Nat} {c : Call} {e : Error} (h : s.position = .reading k) (hc : s.calls[k]? = some c)
    (hr : c.inbound[c.read]? = some (.error e)) :
    Moves s .receive { s.setCall k { c with read := c.read + 1 } with position := .failed }
  | handled {k : Nat} {f : OrchestratorFrame} (h : s.position = .handling k f) :
    Moves s .handled { s with position := .reading k, returned := s.returned + 1 }
  | exhausted (h : s.position = .failed) (hr : s.limit ≤ s.retries) :
    Moves s .judge { s with slot := none, position := .leaving }
  | again (h : s.position = .failed) (hr : s.retries < s.limit) :
    Moves s .judge { s with retries := s.retries + 1, status := .connecting, position := .renewing }
  | leave (h : s.position = .leaving) :
    Moves s .leave { s with status := .stopped .registrationExhausted, position := .gone }
  | renew (h : s.position = .renewing) : Moves s .renew s.renew
  | publish {k : Nat} (h : s.position = .publishing k) :
    Moves s .publish { s with slot := some k, position := .dialing k }
  | stop (h : s.cancelled = true) (hw : s.position.waits = true) : Moves s .stop s.stop
  | arrive {k : Nat} {c : Call} (hk : k < s.opened) (hc : s.calls[k]? = some c) (r : Except Error OrchestratorFrame) :
    Moves s (.arrive k r) (s.setCall k { c with inbound := c.inbound ++ [r] })
  | take {k : Nat} {c : Call} {f : AgentFrame} {rest : List AgentFrame} (hk : k < s.opened) (hc : s.calls[k]? = some c)
    (hw : c.queue.waiting = f :: rest) :
    Moves s (.take k) (s.setCall k { c with queue := c.queue.pop.2, sent := c.sent ++ [f] })
  | release {k : Nat} {c : Call} (hk : k < s.opened) (hc : s.calls[k]? = some c) :
    Moves s (.release k) (s.setCall k { c with queue := c.queue.dropReceiver })

variable {s s' : Interleaved} {e : Event}

theorem atCall_eq_some {k : Nat} {change : Call → Option Call} (h : s.atCall k change = some s') :
    k < s.opened ∧ ∃ c c', s.calls[k]? = some c ∧ change c = some c' ∧ s' = s.setCall k c' := by
  unfold atCall at h
  split_ifs at h with hk
  obtain ⟨c', hc', rfl⟩ := Option.map_eq_some_iff.1 h
  obtain ⟨c, hc, hchange⟩ := Option.bind_eq_some_iff.1 hc'
  exact ⟨hk, c, c', hc, hchange, rfl⟩

theorem moves_of_offer {i k : Nat} {f : AgentFrame} {w : Bool} (hi : s.senders[i]? = some (.offering k f w))
    (h : s.offer i k f = some s') : Moves s (.offer i) s' := by
  unfold offer at h
  split at h
  · cases h
  · rename_i c hc
    split at h
    · rename_i q hq
      cases h
      exact .queue hi hc hq
    · rename_i q hq
      cases h
      exact .wait hi hc (Queue.push_waits hq)
    · rename_i q hq
      cases h
      exact .refuse hi hc (Queue.push_refused hq).1

/-- Nothing else can happen. -/
theorem moves_of_react (h : s.react e = some s') : Moves s e s' := by
  cases e with
  | establish =>
    simp only [react, establish, Option.some.injEq] at h
    split_ifs at h with hc
    · subst h
      exact .unestablished hc
    · subst h
      rw [not_or] at hc
      exact .establish (by simpa using hc.1) (by simpa using hc.2)
  | send f =>
    cases h
    exact .send f
  | keep i =>
    simp only [react] at h
    split at h
    · rename_i k f hi
      cases h
      unfold keep
      split_ifs with hf
      · exact .keep hi hf
      · exact .pass hi (by simpa using hf)
    · cases h
  | offer i =>
    simp only [react] at h
    split at h
    · rename_i k f w hi
      exact moves_of_offer hi h
    · cases h
  | tell i =>
    simp only [react] at h
    split at h
    · rename_i hi
      cases h
      exact .tell hi
    · cases h
  | giveUp i =>
    simp only [react] at h
    split at h
    · rename_i hi
      cases h
      exact .giveUp hi
    · cases h
  | close =>
    cases h
    exact .close
  | beginShutdown =>
    cases h
    exact .beginShutdown
  | endShutdown i =>
    simp only [react] at h
    split at h
    · rename_i joins hi
      split_ifs at h with hj
      cases h
      exact .endShutdown hi fun hjoins => by simpa [hjoins] using hj
    · cases h
  | proceed =>
    simp only [react] at h
    split_ifs at h with hp
    cases h
    exact .proceed hp.1 hp.2
  | dial =>
    simp only [react] at h
    split at h
    · rename_i k hp
      cases h
      exact .dial hp
    · cases h
  | answer r =>
    simp only [react] at h
    split at h
    · rename_i k hp
      obtain ⟨c, hc, rfl⟩ := Option.map_eq_some_iff.1 h
      cases r with
      | ok u => exact .opened hp hc
      | error e => exact .unopened hp hc e
    · cases h
  | receive =>
    simp only [react] at h
    split at h
    · rename_i k hp
      obtain ⟨c, hc, h⟩ := Option.bind_eq_some_iff.1 h
      obtain ⟨r, hr, rfl⟩ := Option.map_eq_some_iff.1 h
      cases r with
      | ok f => exact .received hp hc hr
      | error e => exact .ended hp hc hr
    · cases h
  | handled =>
    simp only [react] at h
    split at h
    · rename_i k f hp
      cases h
      exact .handled hp
    · cases h
  | judge =>
    simp only [react] at h
    split_ifs at h with hp
    cases h
    unfold judge
    split_ifs with hr
    · exact .exhausted hp hr
    · exact .again hp (by omega)
  | leave =>
    simp only [react] at h
    split_ifs at h with hp
    cases h
    exact .leave hp
  | renew =>
    simp only [react] at h
    split_ifs at h with hp
    cases h
    exact .renew hp
  | publish =>
    simp only [react] at h
    split at h
    · rename_i k hp
      cases h
      exact .publish hp
    · cases h
  | stop =>
    simp only [react] at h
    split_ifs at h with hp
    cases h
    exact .stop hp.1 hp.2
  | arrive k r =>
    obtain ⟨hk, c, c', hc, hc', rfl⟩ := atCall_eq_some h
    cases hc'
    exact .arrive hk hc r
  | take k =>
    obtain ⟨hk, c, c', hc, hc', rfl⟩ := atCall_eq_some h
    split at hc'
    · rename_i f rest hw
      cases hc'
      exact .take hk hc hw
    · cases hc'
  | release k =>
    obtain ⟨hk, c, c', hc, hc', rfl⟩ := atCall_eq_some h
    cases hc'
    exact .release hk hc

/-! ## Many steps -/

theorem run_cons (he : s.react e = some s') (es : List Event) : run s (e :: es) = run s' es := by
  rw [run, he, Option.bind_some]

theorem run_append (s : Interleaved) (es es' : List Event) :
    run s (es ++ es') = (run s es).bind fun s' => run s' es' := by
  induction es generalizing s with
  | nil => rfl
  | cons e es ih =>
    rw [List.cons_append, run, run]
    cases s.react e with
    | none => rfl
    | some s₁ => exact ih s₁

/-- What every step preserves holds in the end. -/
theorem run_preserves {P : Interleaved → Prop} (step : ∀ {s e s'}, P s → Moves s e s' → P s') {es : List Event}
    (hrun : run s es = some s') (h : P s) : P s' := by
  induction es generalizing s with
  | nil =>
    cases hrun
    exact h
  | cons e es ih =>
    rw [run, Option.bind_eq_some_iff] at hrun
    obtain ⟨s₁, he, hrun⟩ := hrun
    exact ih hrun (step h (moves_of_react he))

/-- What holds at the start and of a row of steps whenever it holds of the row without its last step. -/
theorem run_induction {P : List Event → Interleaved → Prop} {s : Interleaved} (start : P [] s)
    (step : ∀ {es e s₁ s₂}, run s es = some s₁ → P es s₁ → Moves s₁ e s₂ → P (es ++ [e]) s₂) {es : List Event}
    (hrun : run s es = some s') : P es s' := by
  induction es using List.reverseRecOn generalizing s' with
  | nil =>
    cases hrun
    exact start
  | append_singleton es e ih =>
    rw [run_append, Option.bind_eq_some_iff] at hrun
    obtain ⟨s₁, hrun, he⟩ := hrun
    rw [run, Option.bind_eq_some_iff] at he
    obtain ⟨s₂, he, hnil⟩ := he
    cases hnil
    exact step hrun (ih hrun) (moves_of_react he)

/-! ## Where the listener stands -/

/-- What the place of the listener tells of the calls: only the last of them may not have been opened. -/
def Placed (s : Interleaved) : Prop :=
  match s.position with
  | .absent => s.calls = [] ∧ s.opened = 0
  | .waiting => s.calls.length = 1 ∧ s.opened = 0
  | .dialing k | .publishing k => s.calls.length = k + 1 ∧ s.opened = k
  | .opening k | .reading k | .handling k _ => s.calls.length = k + 1 ∧ s.opened = k + 1
  | .failed | .leaving | .renewing => s.calls.length = s.opened
  | .gone => s.opened ≤ s.calls.length

/-- The listener is told by what the channel holds, as long as the channel was not cancelled. -/
def Held (s : Interleaved) : Prop := s.cancelled = false → (s.established = true ↔ s.position ≠ .absent)

theorem Held.moves (h : Held s) (hm : Moves s e s') : Held s' := by
  cases hm with
  | unestablished => exact h
  | establish => simp [Held]
  | close => simp [Held, cancel, markStopped]
  | beginShutdown => simp [Held, cancel]
  | stop hc hw => simp [Held, stop, hc]
  | _ => simp_all [Held, send, advance, setCall, markStopped, renew]

theorem Placed.opened_le (h : Placed s) : s.opened ≤ s.calls.length := by
  unfold Placed at h
  split at h <;> omega

theorem Placed.of_call (h : Placed s) {k : Nat} (hk : s.position.call = some k) :
    k + 1 = s.calls.length ∧ s.opened = k + 1 := by
  unfold Placed at h
  cases hl : s.position <;> rw [hl] at h hk <;> cases hk <;> exact ⟨h.1.symm, h.2⟩

theorem Placed.of_unopened (h : Placed s) {k : Nat} (hk : s.position.unopened = some k) :
    k + 1 = s.calls.length ∧ s.opened = k := by
  unfold Placed at h
  cases hl : s.position <;> rw [hl] at h hk <;> cases hk <;> exact ⟨h.1.symm, h.2⟩

theorem Placed.moves (h : Placed s) (hh : Held s) (hm : Moves s e s') : Placed s' := by
  cases hm with
  | stop hc hw =>
    show s.opened ≤ s.stop.calls.length
    have hle := h.opened_le
    unfold stop
    split
    · rwa [List.length_modify]
    · exact hle
  | _ => simp_all [Placed, Held, send, advance, setCall, markStopped, renew, cancel]

/-! ## What one step changes -/

theorem length_calls_stop (s : Interleaved) : s.stop.calls.length = s.calls.length := by
  unfold stop
  split
  · exact List.length_modify _ _ _
  · rfl

theorem length_calls_le (hp : Placed s) (hh : Held s) (hm : Moves s e s') : s.calls.length ≤ s'.calls.length := by
  cases hm with
  | establish he hc =>
    have habsent : s.position = .absent := by simpa [he] using hh hc
    rw [Placed, habsent] at hp
    simp [hp.1]
  | stop hc hw => exact (length_calls_stop s).ge
  | renew hl => simp [renew]
  | _ => simp [send, advance, setCall, cancel, markStopped]

/-- How somebody comes to stand where it does. -/
inductive Arises (s s' : Interleaved) : Sender → Prop
  | before {x : Sender} (h : x ∈ s.senders) : Arises s s' x
  | holding {k : Nat} (h : s.slot = some k) (f : AgentFrame) : Arises s s' (.holding k f)
  | offering {k : Nat} {f : AgentFrame} (h : .holding k f ∈ s.senders) (hf : f.isRegister = true → s'.kept ≠ []) :
    Arises s s' (.offering k f false)
  | waiting {k : Nat} {f : AgentFrame} {w : Bool} (h : .offering k f w ∈ s.senders) : Arises s s' (.offering k f true)
  | telling {k : Nat} {f : AgentFrame} {w : Bool} (h : .offering k f w ∈ s.senders) (hf : f.isRegister = true)
    (hq : (k, f) ∈ s'.queued) : Arises s s' .telling
  | returned (r : Channel.Reply) : Arises s s' (.returned r)

theorem arises_of_mem (hm : Moves s e s') {x : Sender} (hx : x ∈ s'.senders) : Arises s s' x := by
  cases hm with
  | send f =>
    rcases List.mem_append.1 hx with hx | hx
    · exact .before hx
    · rw [List.mem_singleton] at hx
      subst hx
      split
      · rename_i k hk
        exact .holding hk f
      · exact .returned _
  | keep hi hf =>
    rcases List.mem_or_eq_of_mem_set hx with hx | rfl
    · exact .before hx
    · exact .offering (List.mem_of_getElem? hi) fun _ => by simp
  | pass hi hf =>
    rcases List.mem_or_eq_of_mem_set hx with hx | rfl
    · exact .before hx
    · exact .offering (List.mem_of_getElem? hi) fun h => by simp [hf] at h
  | queue hi hc hq =>
    rcases List.mem_or_eq_of_mem_set hx with hx | rfl
    · exact .before hx
    · split_ifs with hf
      · exact .telling (List.mem_of_getElem? hi) hf (by simp)
      · exact .returned _
  | wait hi hc hr =>
    rcases List.mem_or_eq_of_mem_set hx with hx | rfl
    · exact .before hx
    · exact .waiting (List.mem_of_getElem? hi)
  | refuse hi | tell hi | giveUp hi =>
    rcases List.mem_or_eq_of_mem_set hx with hx | rfl
    · exact .before hx
    · exact .returned _
  | _ => exact .before hx

theorem queued_eq (hm : Moves s e s') :
    s'.queued = s.queued ∨ ∃ k f w, .offering k f w ∈ s.senders ∧ s'.queued = s.queued ++ [(k, f)] := by
  cases hm with
  | queue hi hc hq => exact .inr ⟨_, _, _, List.mem_of_getElem? hi, rfl⟩
  | _ => exact .inl rfl

theorem kept_eq (hm : Moves s e s') :
    s'.kept = s.kept ∧ s'.lastRegister = s.lastRegister ∨
      ∃ f, f.isRegister = true ∧ s'.kept = s.kept ++ [f] ∧ s'.lastRegister = some f := by
  cases hm with
  | keep hi hf => exact .inr ⟨_, hf, rfl, rfl⟩
  | _ => exact .inl ⟨rfl, rfl⟩

theorem slot_eq_or_lt (hp : Placed s) (hm : Moves s e s') {k : Nat} (hk : s'.slot = some k) :
    s.slot = some k ∨ k < s'.calls.length := by
  cases hm with
  | establish he hc =>
    cases hk
    exact .inr (by simp)
  | close | beginShutdown | exhausted => cases hk
  | publish hl =>
    cases hk
    rw [Placed, hl] at hp
    exact .inr (by simp [hp.1])
  | _ => exact .inl hk

/-- The call that somebody who sends a frame has a sender of. -/
def Sender.call : Sender → Option Nat
  | .holding k _ | .offering k _ _ => some k
  | _ => none

/-- Nobody reaches a call that does not exist. -/
structure Bounded (s : Interleaved) : Prop where
  slot : ∀ k, s.slot = some k → k < s.calls.length
  sender : ∀ x ∈ s.senders, ∀ k, x.call = some k → k < s.calls.length
  queued : ∀ p ∈ s.queued, p.1 < s.calls.length

theorem Bounded.moves (h : Bounded s) (hp : Placed s) (hh : Held s) (hm : Moves s e s') : Bounded s' := by
  have hle := length_calls_le hp hh hm
  refine ⟨fun k hk => ?_, fun x hx k hk => ?_, fun p hq => ?_⟩
  · rcases slot_eq_or_lt hp hm hk with hk | hk
    · exact Nat.lt_of_lt_of_le (h.slot k hk) hle
    · exact hk
  · refine Nat.lt_of_lt_of_le ?_ hle
    cases arises_of_mem hm hx with
    | before hx => exact h.sender x hx k hk
    | holding hs f =>
      cases hk
      exact h.slot _ hs
    | offering hold hf => exact h.sender _ hold k hk
    | waiting hold => exact h.sender _ hold k hk
    | telling => cases hk
    | returned => cases hk
  · refine Nat.lt_of_lt_of_le ?_ hle
    rcases queued_eq hm with hs | ⟨k, f, w, hx, hs⟩
    · exact h.queued p (hs ▸ hq)
    · rw [hs, List.mem_append, List.mem_singleton] at hq
      rcases hq with hq | rfl
      · exact h.queued p hq
      · exact h.sender _ hx k rfl

/-! ## One call -/

/-- What callers have put into the stream of a call. -/
def put (s : Interleaved) (k : Nat) : List AgentFrame := (s.queued.filter fun p => p.1 = k).map Prod.snd

theorem put_append {t : Interleaved} {j : Nat} {f : AgentFrame} (h : t.queued = s.queued ++ [(j, f)]) (k : Nat) :
    t.put k = s.put k ++ if j = k then [f] else [] := by
  unfold put
  rw [h, List.filter_append, List.map_append]
  split_ifs with hk <;> simp [hk]

theorem put_eq_nil (h : ∀ p ∈ s.queued, p.1 < s.calls.length) {k : Nat} (hk : s.calls.length ≤ k) : s.put k = [] := by
  rw [put, List.map_eq_nil_iff, List.filter_eq_nil_iff]
  intro p hp
  have hlt := h p hp
  simp
  omega

/-- What a step makes of a call. -/
inductive Turns (s s' : Interleaved) (k : Nat) (c : Call) : Call → Prop
  | same (hq : s'.put k = s.put k) : Turns s s' k c c
  | queued {f : AgentFrame} {q : Queue AgentFrame} (h : c.queue.push f = (.accepted, q))
    (hq : s'.put k = s.put k ++ [f]) : Turns s s' k c { c with queue := q }
  | taken {f : AgentFrame} {rest : List AgentFrame} (h : c.queue.waiting = f :: rest) (hq : s'.put k = s.put k) :
    Turns s s' k c { c with queue := c.queue.pop.2, sent := c.sent ++ [f] }
  | released (hq : s'.put k = s.put k) : Turns s s' k c { c with queue := c.queue.dropReceiver }
  | answered (hp : s.position = .opening k) (r : Except Error Unit) (hq : s'.put k = s.put k) :
    Turns s s' k c { c with answer := some r }
  | read (hp : s.position = .reading k) {r : Except Error OrchestratorFrame} (hr : c.inbound[c.read]? = some r)
    (hq : s'.put k = s.put k) : Turns s s' k c { c with read := c.read + 1 }
  | arrived (r : Except Error OrchestratorFrame) (hq : s'.put k = s.put k) :
    Turns s s' k c { c with inbound := c.inbound ++ [r] }

theorem getElem?_setCall {j k : Nat} {c : Call} (hc : s.calls[k]? = some c) (d : Call) :
    (s.setCall j d).calls[k]? = some (if j = k then d else c) := by
  have hk := (List.getElem?_eq_some_iff.1 hc).1
  unfold setCall
  rw [List.getElem?_set]
  split_ifs with h hj
  · rfl
  · omega
  · exact hc

theorem getElem?_stop {k : Nat} {c : Call} (hc : s.calls[k]? = some c) :
    s.stop.calls[k]? =
      some (if s.position.unopened = some k then { c with queue := c.queue.dropReceiver } else c) := by
  unfold stop
  split
  · rename_i j hj
    rw [List.getElem?_modify, hc, hj]
    by_cases hjk : j = k <;> simp [hjk]
  · rename_i hnone
    rw [hnone, if_neg (by simp)]
    exact hc

/-- No call vanishes, and nothing else becomes of it. -/
theorem turns_of_getElem? (hs : Placed s) (hh : Held s) (hm : Moves s e s') {k : Nat} {c : Call}
    (hc : s.calls[k]? = some c) : ∃ c', s'.calls[k]? = some c' ∧ Turns s s' k c c' := by
  -- a change of another call is none of this one
  have change {j : Nat} {b d : Call} (hb : s.calls[j]? = some b) (hq : j ≠ k → s'.put k = s.put k)
      (ht : j = k → Turns s s' k b d) : ∃ c', (s.setCall j d).calls[k]? = some c' ∧ Turns s s' k c c' := by
    refine ⟨_, getElem?_setCall hc d, ?_⟩
    split_ifs with hj
    · subst hj
      cases hb.symm.trans hc
      exact ht rfl
    · exact .same (hq hj)
  cases hm with
  | establish he hcancel =>
    have habsent : s.position = .absent := by simpa [he] using hh hcancel
    rw [Placed, habsent] at hs
    simp [hs.1] at hc
  | @queue i j f w b q hi hb hq =>
    have hput := put_append (t := { s with queued := s.queued ++ [(j, f)] }) rfl k
    refine change hb (fun hj => ?_) fun hj => .queued hq ?_
    · rw [if_neg hj, List.append_nil] at hput
      exact hput
    · rw [if_pos hj] at hput
      exact hput
  | opened hp hb => exact change hb (fun _ => rfl) fun hj => .answered (hj ▸ hp) _ rfl
  | unopened hp hb e => exact change hb (fun _ => rfl) fun hj => .answered (hj ▸ hp) _ rfl
  | received hp hb hr => exact change hb (fun _ => rfl) fun hj => .read (hj ▸ hp) hr rfl
  | ended hp hb hr => exact change hb (fun _ => rfl) fun hj => .read (hj ▸ hp) hr rfl
  | arrive hk hb r => exact change hb (fun _ => rfl) fun _ => .arrived r rfl
  | take hk hb hw => exact change hb (fun _ => rfl) fun _ => .taken hw rfl
  | release hk hb => exact change hb (fun _ => rfl) fun _ => .released rfl
  | stop hcancel hw =>
    refine ⟨_, getElem?_stop hc, ?_⟩
    split_ifs
    · exact .released rfl
    · exact .same rfl
  | renew hp =>
    refine ⟨c, ?_, .same rfl⟩
    show (s.calls ++ _)[k]? = some c
    rw [List.getElem?_append_left (List.getElem?_eq_some_iff.1 hc).1, hc]
  | _ => exact ⟨c, hc, .same rfl⟩

/-- Only two steps make the stream of a call. -/
theorem origin_of_getElem? (hs : Placed s) (hh : Held s) (hm : Moves s e s') {k : Nat} {c : Call}
    (hc : s'.calls[k]? = some c) :
    (∃ b, s.calls[k]? = some b ∧ Turns s s' k b c) ∨
      e = .establish ∧ s.calls = [] ∧ k = 0 ∧ c = {} ∧ s'.queued = s.queued ∨
      e = .renew ∧ s.position = .renewing ∧ k = s.calls.length ∧ c = freshCall s.lastRegister ∧
        s'.queued = s.queued := by
  have hk' := (List.getElem?_eq_some_iff.1 hc).1
  rcases Nat.lt_or_ge k s.calls.length with hk | hk
  · have hb := List.getElem?_eq_getElem hk
    obtain ⟨c', hc', ht⟩ := turns_of_getElem? hs hh hm hb
    cases hc.symm.trans hc'
    exact .inl ⟨_, hb, ht⟩
  · cases hm with
    | establish he hcancel =>
      have habsent : s.position = .absent := by simpa [he] using hh hcancel
      rw [Placed, habsent] at hs
      have hzero : k = 0 := by simpa using hk'
      subst hzero
      cases hc
      exact .inr (.inl ⟨rfl, hs.1, rfl, rfl, rfl⟩)
    | renew hp =>
      have hlen : k = s.calls.length := by
        have hlt : k < (s.calls ++ [freshCall s.lastRegister]).length := hk'
        rw [List.length_append, List.length_singleton] at hlt
        omega
      subst hlen
      have hlast : (s.calls ++ [freshCall s.lastRegister])[s.calls.length]? = some c := hc
      rw [List.getElem?_concat_length] at hlast
      cases hlast
      exact .inr (.inr ⟨rfl, hp, rfl, rfl, rfl⟩)
    | stop hcancel hw =>
      have hlen : s.stop.calls.length = s.calls.length := length_calls_stop s
      omega
    | unestablished => omega
    | _ =>
      have hlen : k < s.calls.length := by simpa [send, advance, setCall, cancel, markStopped] using hk'
      omega

/-! ## Every state that can be reached -/

/-- What holds of every state that a new channel can come to. -/
structure Sound (s : Interleaved) : Prop where
  held : Held s
  placed : Placed s
  bounded : Bounded s

theorem sound_new (limit : Nat) : Sound { limit := limit } :=
  ⟨fun _ => by simp, ⟨rfl, rfl⟩, by simp, by simp, by simp⟩

theorem Sound.moves (h : Sound s) (hm : Moves s e s') : Sound s' :=
  ⟨h.held.moves hm, h.placed.moves h.held hm, h.bounded.moves h.placed h.held hm⟩

theorem sound_of_run {limit : Nat} {es : List Event} (hrun : run { limit := limit } es = some s) : Sound s :=
  run_preserves Sound.moves hrun (sound_new limit)

end Custodian.Interleaved
