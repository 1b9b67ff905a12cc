import Custodian.Agent
import Mathlib.Tactic

/-!
# An open call

* `Line.Accepts` : a call takes every frame at once; `send_eq_post` : what is sent then has gone out;
* `Line.Attentive` : the listener of such a call waits for the next frame; `attentive_of_registrate` : a first
  registration leads there if the other side opens the call;
* `answersOf` : what is said to a row of frames, one after the other;
* `settle_feed` : the listener reads a row of frames one by one, and all that is said to them has gone out.
-/

namespace Custodian

set_option autoImplicit false

namespace Line

variable {l : Line} {σ : Type}

/-! ## Sending -/

/-- A call takes every frame out of its queue at once, and the queue is in use. -/
structure Accepts (l : Line) : Prop where
  inCall : l.channel.listener.inCall = true
  senders : l.channel.queue.senders ≠ 0
  receiving : l.channel.queue.receiving = true
  room : 0 < l.channel.queue.capacity
  waiting : l.channel.queue.waiting = []

/-- Frames have gone out on the call at hand. -/
def post (l : Line) (fs : List AgentFrame) : Line :=
  { l with sent := l.sent ++ (fs.map (l.channel.calls, ·)).toArray }

@[simp] theorem post_nil (l : Line) : l.post [] = l := by simp [post]

@[simp] theorem post_post (l : Line) (xs ys : List AgentFrame) : (l.post xs).post ys = l.post (xs ++ ys) := by
  simp [post]

/-- Until `l'` the frames `fs` have gone out on the call that is at hand in `l`. -/
def WentOut (l l' : Line) (fs : List AgentFrame) : Prop :=
  l'.sent.toList = l.sent.toList ++ fs.map (l.channel.calls, ·)

instance (l l' : Line) (fs : List AgentFrame) : Decidable (l.WentOut l' fs) := inferInstanceAs (Decidable (_ = _))

theorem wentOut_post (l : Line) (fs : List AgentFrame) : l.WentOut (l.post fs) fs := by
  simp [WentOut, post]

theorem Accepts.post (h : l.Accepts) (fs : List AgentFrame) : (l.post fs).Accepts := ⟨h.1, h.2, h.3, h.4, h.5⟩

theorem flush_eq_self (h : l.Accepts) : l.flush = l := by
  obtain ⟨⟨limit, status, ⟨capacity, waiting, senders, receiving, hle⟩, last, ready, cancelled, established, joining,
    listener, retries, calls⟩, plans, beyond, current, isOpen, sent⟩ := l
  have hw : waiting = [] := h.waiting
  subst hw
  rw [flush, if_pos h.inCall]
  simp [Queue.drain]

/-- What is sent on such a call has gone out, and nothing else has changed. -/
theorem send_eq_post {f : AgentFrame} (h : l.Accepts) (hf : f.isRegister = false) : l.send f = (l.post [f], .done) := by
  obtain ⟨⟨limit, status, ⟨capacity, waiting, senders, receiving, hle⟩, last, ready, cancelled, established, joining,
    listener, retries, calls⟩, plans, beyond, current, isOpen, sent⟩ := l
  obtain ⟨hcall, hsenders, hreceiving, hroom, hwaiting⟩ := h
  dsimp only at hcall hsenders hreceiving hroom hwaiting
  subst hwaiting hreceiving
  simp [send, event, Channel.react, Channel.send, hsenders, Queue.push, hroom, hf, flush, hcall, Queue.drain, post]

/-! ## Waiting for a frame -/

/-- The listener of an open call waits for the next frame, all that came is dealt with, and all that was sent has gone
out. -/
structure Attentive (l : Line) : Prop where
  reading : l.channel.listener = .reading
  status : l.channel.status = .listening
  going : l.channel.cancelled = false
  senders : l.channel.queue.senders ≠ 0
  receiving : l.channel.queue.receiving = true
  room : 0 < l.channel.queue.capacity
  waiting : l.channel.queue.waiting = []
  items : l.current.items = []

theorem Attentive.accepts (h : l.Attentive) : l.Accepts :=
  ⟨by rw [h.reading]; rfl, h.senders, h.receiving, h.room, h.waiting⟩

theorem Attentive.post (h : l.Attentive) (fs : List AgentFrame) : (l.post fs).Attentive :=
  ⟨h.1, h.2, h.3, h.4, h.5, h.6, h.7, h.8⟩

/-- So many frames have been read: after the first of them the count of failed calls begins anew. -/
def served (l : Line) : Nat → Line
  | 0 => l
  | _ + 1 => { l with channel := { l.channel with retries := 0 } }

theorem Attentive.served (h : l.Attentive) (n : Nat) : (l.served n).Attentive := by
  cases n with
  | zero => exact h
  | succ n => exact ⟨h.1, h.2, h.3, h.4, h.5, h.6, h.7, h.8⟩

theorem served_post (l : Line) (fs : List AgentFrame) (n : Nat) : (l.post fs).served n = (l.served n).post fs := by
  cases n <;> rfl

theorem served_served (l : Line) (n : Nat) : (l.served 1).served n = l.served (n + 1) := by
  cases n <;> rfl

theorem wentOut_served_post (l : Line) (n : Nat) (fs : List AgentFrame) : l.WentOut ((l.served n).post fs) fs := by
  cases n <;> exact wentOut_post _ fs

/-- The line while the handler is at work on a frame. -/
def hear (l : Line) (f : OrchestratorFrame) : Line :=
  { l with channel := { l.channel with listener := .handling f, retries := 0 } }

theorem Attentive.accepts_hear (h : l.Attentive) (f : OrchestratorFrame) : (l.hear f).Accepts :=
  ⟨rfl, h.senders, h.receiving, h.room, h.waiting⟩

theorem event_received (h : l.Attentive) (f : OrchestratorFrame) : l.event (.received (.ok f)) = (l.hear f, .done) := by
  have hreact : l.channel.react (.received (.ok f)) = some ((l.hear f).channel, .done) := by
    rw [Channel.react, if_pos h.reading]
    rfl
  rw [event, hreact]
  exact congrArg (·, Channel.Reply.done) (flush_eq_self (h.accepts_hear f))

theorem event_handled (h : l.Attentive) (f : OrchestratorFrame) (fs : List AgentFrame) :
    ((l.hear f).post fs).event .handled = ((l.served 1).post fs, .done) := by
  have hreact : ((l.hear f).post fs).channel.react .handled = some (((l.served 1).post fs).channel, .done) := by
    obtain ⟨hl, -⟩ := h
    show some ({ (l.hear f).channel with listener := .reading }, Channel.Reply.done) = _
    rw [← hl]
    rfl
  rw [event, hreact]
  exact congrArg (·, Channel.Reply.done) (flush_eq_self ((h.served 1).post fs).accepts)

end Line

/-! ## A row of frames -/

/-- What is said to a row of things, one after the other, and what is left in the end. -/
def answersOf {α σ : Type} (g : α → σ → List AgentFrame × σ) : List α → σ → List AgentFrame × σ
  | [], s => ([], s)
  | x :: xs, s => ((g x s).1 ++ (answersOf g xs (g x s).2).1, (answersOf g xs (g x s).2).2)

theorem answersOf_map {α β σ : Type} (g : β → σ → List AgentFrame × σ) (f : α → β) (xs : List α) (s : σ) :
    answersOf g (xs.map f) s = answersOf (fun x => g (f x)) xs s := by
  induction xs generalizing s with
  | nil => rfl
  | cons x xs ih => simp only [List.map_cons, answersOf, ih]

namespace Line

variable {l : Line} {σ : Type} {handler : Handler σ} {g : OrchestratorFrame → σ → List AgentFrame × σ}

/-- What a handler does on a call that takes every frame: it says something and changes its own state. -/
def Handler.Says (handler : Handler σ) (g : OrchestratorFrame → σ → List AgentFrame × σ) : Prop :=
  ∀ f l s, Accepts l → handler f (l, s) = (l.post (g f s).1, (g f s).2)

theorem event_feed (l : Line) (items : List (Except Error OrchestratorFrame)) (e : Channel.Event) :
    (l.feed items).event e = ((l.event e).1.feed items, (l.event e).2) := by
  unfold event
  rw [show (l.feed items).channel = l.channel from rfl]
  cases l.channel.react e with
  | none => rfl
  | some r =>
    simp only [flush]
    split_ifs <;> rfl

theorem step?_frame (hg : handler.Says g) (h : l.Attentive) (f : OrchestratorFrame)
    (items : List (Except Error OrchestratorFrame)) (s : σ) :
    step? handler (l.feed (.ok f :: items), s) =
      some (((l.served 1).post (g f s).1).feed items, (g f s).2) := by
  have hitems : (l.feed (.ok f :: items)).current.items = .ok f :: items := by simp [feed, h.items]
  have hrest : ({ l.feed (.ok f :: items) with
      current := { (l.feed (.ok f :: items)).current with items := items } } : Line) = l.feed items := by
    simp [feed, h.items]
  have hhandled : ((l.hear f).feed items).Accepts :=
    ⟨rfl, h.senders, h.receiving, h.room, h.waiting⟩
  have hpost : ((l.hear f).feed items).post (g f s).1 = ((l.hear f).post (g f s).1).feed items := rfl
  have hgoing : (l.feed (.ok f :: items)).channel.cancelled = false := h.going
  have hreading : (l.feed (.ok f :: items)).channel.listener = .reading := h.reading
  simp only [step?, hgoing, hreading, hitems, hrest, event_feed, event_received h, hg f _ s hhandled, hpost,
    event_handled h, Bool.false_eq_true, if_false]

theorem step?_attentive (h : l.Attentive) (s : σ) : step? handler (l, s) = none := by
  simp [step?, h.going, h.reading, h.items]

theorem settleWithin_frames (hg : handler.Says g) (fs : List OrchestratorFrame) {fuel : Nat} (hfuel : fs.length ≤ fuel)
    (h : l.Attentive) (s : σ) :
    settleWithin handler fuel (l.feed (fs.map .ok), s) =
      ((l.served fs.length).post (answersOf g fs s).1, (answersOf g fs s).2) := by
  induction fs generalizing l s fuel with
  | nil =>
    have hfeed : l.feed [] = l := by simp [feed]
    rw [List.map_nil, hfeed]
    cases fuel with
    | zero => simp [settleWithin, answersOf, served]
    | succ fuel => simp [settleWithin, step?_attentive h, answersOf, served]
  | cons f fs ih =>
    cases fuel with
    | zero => simp at hfuel
    | succ fuel =>
      -- one step reads the frame and lets the handler deal with it, and the listener is attentive again
      have hrest := ih (Nat.le_of_succ_le_succ hfuel) ((h.served 1).post (g f s).1) (g f s).2
      rw [List.map_cons, settleWithin, step?_frame hg h]
      dsimp only
      rw [hrest, served_post, served_served, post_post]
      rfl

/-- **The listener reads a row of frames one by one.** What the handler says to them has gone out on the call in this
order, and the listener waits for the next frame. -/
theorem settle_feed (hg : handler.Says g) (h : l.Attentive) (fs : List OrchestratorFrame) (s : σ) :
    settle handler (l.feed (fs.map .ok), s) =
      ((l.served fs.length).post (answersOf g fs s).1, (answersOf g fs s).2) := by
  refine settleWithin_frames hg fs ?_ h s
  have hwork : fs.length ≤ (l.feed (fs.map .ok)).work := by
    simp only [work, feed, List.length_append, List.length_map]
    omega
  calc fs.length ≤ (l.feed (fs.map .ok)).work := hwork
    _ ≤ (l.feed (fs.map .ok)).work * ((l.feed (fs.map .ok)).channel.limit + 2) := Nat.le_mul_of_pos_right _ (by omega)
    _ ≤ 4 * (l.feed (fs.map .ok)).work * ((l.feed (fs.map .ok)).channel.limit + 2) + 4 := by
      rw [Nat.mul_assoc]
      omega

end Line

/-! ## The first call -/

/-- An agent that registers with an orchestrator that opens the call is attentive then, and its registration has gone
out. -/
theorem Agent.attentive_of_registrate {σ : Type} (a : Agent) (limit : Nat) (plans : List ControlPlan)
    (beyond : ControlPlan) (handler : Line.Handler σ) (s : σ) :
    let r := Line.settle handler ((a.registrate (.ofPlans limit ({} :: plans) beyond)).1, s)
    r.1.Attentive ∧ r.1.sent = #[(1, a.identity.register)] ∧ r.2 = s := by
  intro r
  have hr : r = ({
      channel := {
        limit := limit
        status := .listening
        queue := .ofCapacity Queue.defaultCapacity
        lastRegister := some a.identity.register
        established := true
        listener := .reading
        calls := 1 }
      plans := plans
      beyond := beyond
      isOpen := true
      sent := #[(1, a.identity.register)] }, s) := rfl
  rw [hr]
  have hroom : 0 < Queue.defaultCapacity := by decide
  exact ⟨⟨rfl, rfl, rfl, Nat.one_ne_zero, rfl, hroom, rfl, rfl⟩, rfl, rfl⟩

end Custodian
