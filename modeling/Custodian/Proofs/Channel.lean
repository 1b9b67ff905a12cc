import Custodian.Channel
import Mathlib.Tactic

/-!
# What can happen to a control channel

* `Channel.Reacts` : the events that are possible and what they lead to; `reacts_of_react` : there are no others;
* `send_eq`, `fail_of_le`, `fail_of_lt` : what sending a frame and a failed call change;
* `run_append`, `run_induction` : rows of events, and what holds along them.
-/

namespace Custodian.Channel

set_option autoImplicit false

/-! ## One event -/

/-- What an event does to a channel, and what a caller learns. -/
inductive Reacts (c : Channel) : Event → Channel → Reply → Prop
  | establish (h : c.established = false) (hc : c.cancelled = false) :
    Reacts c .establish
      { c with
        queue := .ofCapacity Queue.defaultCapacity
        status := .connecting
        established := true
        listener := .waiting } .done
  | unestablished (h : c.established = true ∨ c.cancelled = true) :
    Reacts c .establish c (.refused (.streamError "control channel already established"))
  | send (f : AgentFrame) : Reacts c (.send f) (c.send f).1 (c.send f).2
  | close : Reacts c .close c.cancel.markStopped .done
  | beginShutdown : Reacts c .beginShutdown { c.cancel with joining := c.joining || c.established } .done
  | endShutdown (h : (c.joining && c.listener.running) = false) : Reacts c .endShutdown c.markStopped .done
  | proceed (h : c.listener = .waiting) (hr : c.ready = true) :
    Reacts c .proceed { c with ready := false, listener := .dialing } .done
  | dial (h : c.listener = .dialing) : Reacts c .dial { c with listener := .opening, calls := c.calls + 1 } .done
  | opened (h : c.listener = .opening) :
    Reacts c (.opened (.ok ())) { c with listener := .reading, status := .listening } .done
  | unopened (h : c.listener = .opening) (e : Error) : Reacts c (.opened (.error e)) c.fail .done
  | received (h : c.listener = .reading) (f : OrchestratorFrame) :
    Reacts c (.received (.ok f)) { c with listener := .handling f, retries := 0 } .done
  | ended (h : c.listener = .reading) (e : Error) : Reacts c (.received (.error e)) c.fail .done
  | handled {f : OrchestratorFrame} (h : c.listener = .handling f) :
    Reacts c .handled { c with listener := .reading } .done
  | taken (h : c.listener.inCall = true) (hq : c.queue.waiting ≠ []) :
    Reacts c .taken { c with queue := c.queue.pop.2 } .done
  | stop (h : c.cancelled = true) (hl : c.listener.running = true) : Reacts c .stop c.stop .done

variable {c c' : Channel} {e : Event} {r : Reply}

/-- Nothing else can happen. -/
theorem reacts_of_react (h : c.react e = some (c', r)) : Reacts c e c' r := by
  cases e with
  | establish =>
    simp only [react, Channel.establish, Option.some.injEq] at h
    split_ifs at h with hc
    · cases h
      exact .unestablished hc
    · cases h
      rw [not_or] at hc
      exact .establish (by simpa using hc.1) (by simpa using hc.2)
  | send f =>
    have hs : c.send f = (c', r) := Option.some.inj h
    have hsend := Reacts.send (c := c) f
    rwa [hs] at hsend
  | close =>
    cases h
    exact .close
  | beginShutdown =>
    cases h
    exact .beginShutdown
  | endShutdown =>
    simp only [react] at h
    split_ifs at h with hj
    cases h
    exact .endShutdown (by simpa using hj)
  | proceed =>
    simp only [react] at h
    split_ifs at h with hl
    cases h
    exact .proceed hl.1 hl.2
  | dial =>
    simp only [react] at h
    split_ifs at h with hl
    cases h
    exact .dial hl
  | opened r =>
    simp only [react] at h
    split_ifs at h with hl
    cases r with
    | ok u =>
      cases h
      exact .opened hl
    | error e =>
      cases h
      exact .unopened hl e
  | received r =>
    simp only [react] at h
    split_ifs at h with hl
    cases r with
    | ok f =>
      cases h
      exact .received hl f
    | error e =>
      cases h
      exact .ended hl e
  | handled =>
    simp only [react] at h
    split at h
    · rename_i f hl
      cases h
      exact .handled hl
    · cases h
  | taken =>
    simp only [react] at h
    split_ifs at h with hq
    cases h
    exact .taken hq.1 hq.2
  | stop =>
    simp only [react] at h
    split_ifs at h with hc
    cases h
    exact .stop hc.1 hc.2

/-! ## Sending and failing -/

theorem send_eq (c : Channel) (f : AgentFrame) :
    ∃ q last ready, (c.send f).1 = { c with queue := q, lastRegister := last, ready := ready } ∧
      q.senders = c.queue.senders := by
  unfold Channel.send
  split_ifs with hs
  · exact ⟨_, _, _, rfl, rfl⟩
  all_goals
    dsimp only
    split
    · rename_i q hq
      have hp := c.queue.senders_push f
      rw [hq] at hp
      exact ⟨_, _, _, rfl, hp⟩
    · exact ⟨_, _, _, rfl, rfl⟩
    · exact ⟨_, _, _, rfl, rfl⟩

theorem send_of_senders_eq_zero (h : c.queue.senders = 0) (f : AgentFrame) :
    c.send f = (c, .refused .streamClosed) := by
  rw [Channel.send, if_pos h]

theorem fail_of_le (h : c.limit ≤ c.retries) :
    c.fail =
      { c with
        queue := c.queue.dropSender
        status := .stopped .registrationExhausted
        listener := .gone } := by
  rw [fail, if_pos h]

theorem fail_of_lt (h : c.retries < c.limit) :
    ∃ q, c.fail =
        { c with
          retries := c.retries + 1
          status := .connecting
          queue := q
          listener := .dialing } ∧
      q.senders = 1 := by
  rw [fail, if_neg (by omega)]
  refine ⟨_, rfl, ?_⟩
  cases c.lastRegister with
  | none => rfl
  | some f => exact Queue.senders_push _ f

/-! ## Many events -/

theorem run_cons (h : c.react e = some (c', r)) (es : List Event) : run c (e :: es) = run c' es := by
  rw [run, h, Option.bind_some]

theorem run_append (c : Channel) (es es' : List Event) :
    run c (es ++ es') = (run c es).bind fun c' => run c' es' := by
  induction es generalizing c with
  | nil => rfl
  | cons e es ih =>
    rw [List.cons_append, run, run]
    cases c.react e with
    | none => rfl
    | some r => exact ih r.1

/-- What every event of some kind preserves, together with something that is kept track of, holds in the end. -/
theorem run_induction {α : Type} {P : Channel → α → Prop} {ok : Event → Prop} {after : α → Event → α}
    (step : ∀ {c c' : Channel} {e : Event} {r : Reply} {a : α}, ok e → P c a → Reacts c e c' r → P c' (after a e))
    {es : List Event} {a : α} (hrun : run c es = some c') (hok : ∀ e ∈ es, ok e) (h : P c a) :
    P c' (es.foldl after a) := by
  induction es generalizing c a with
  | nil =>
    cases hrun
    exact h
  | cons e es ih =>
    rw [run, Option.bind_eq_some_iff] at hrun
    obtain ⟨r, he, hrun⟩ := hrun
    rw [List.forall_mem_cons] at hok
    exact ih hrun hok.2 (step hok.1 h (reacts_of_react he))

end Custodian.Channel
