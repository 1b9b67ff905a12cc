import Custodian.Proofs.Interleaved

/-!
# Every call begins with a registration

* `Announced` : nothing is opened before a registration was queued for the first call, and whoever has kept one can
  repeat it;
* `Call.Carries` : what goes out on a call; `Call.Carries.turns` : a step adds at most what a caller queues;
* `registration_first` : what each call begins with, whoever does what in between.
-/

namespace Custodian.Interleaved

set_option autoImplicit false

variable {s s' : Interleaved} {e : Event}

/-! ## Before the first call -/

/-- A registration has been queued for the first call. -/
def Registered (s : Interleaved) : Prop := ∃ f, f.isRegister = true ∧ (0, f) ∈ s.queued

theorem Registered.moves (h : Registered s) (hm : Moves s e s') : Registered s' := by
  obtain ⟨f, hf, hq⟩ := h
  refine ⟨f, hf, ?_⟩
  rcases queued_eq hm with hs | ⟨k, g, w, -, hs⟩
  · rwa [hs]
  · rw [hs]
    exact List.mem_append_left _ hq

/-- The listener has gone on, or there is more than the stream of the first call. -/
def Started (s : Interleaved) : Prop :=
  (s.position.running = true ∧ s.position ≠ .waiting) ∨ 0 < s.opened ∨ 1 < s.calls.length

/-- What has been kept and what has been queued. -/
structure Announced (s : Interleaved) : Prop where
  last : s.lastRegister = s.kept.getLast?
  kept : ∀ f ∈ s.kept, f.isRegister = true
  offering : ∀ k f w, .offering k f w ∈ s.senders → f.isRegister = true → s.kept ≠ []
  queued : ∀ p ∈ s.queued, p.2.isRegister = true → s.kept ≠ []
  told : s.ready = true ∨ .telling ∈ s.senders → Registered s
  started : Started s → Registered s

theorem announced_new (limit : Nat) : Announced { limit := limit } := by
  constructor <;> simp [Started, Position.running]

/-- The listener goes on when it is told. -/
theorem started_or_ready (hp : Placed s) (hh : Held s) (hm : Moves s e s') (h : Started s') :
    Started s ∨ s.ready = true := by
  -- a listener that is on its way has been told before
  by_cases hrun : s.position.running = true ∧ s.position ≠ .waiting
  · exact .inl (.inl hrun)
  · cases hm with
    | proceed hw hr => exact .inr hr
    | establish he hc =>
      have habsent : s.position = .absent := by simpa [he] using hh hc
      rw [Placed, habsent] at hp
      simp [Started, hp.2] at h
    | stop hc hw =>
      simp only [Started, length_calls_stop] at h
      simp only [stop, Position.running] at h
      exact .inl (.inr (by simpa using h))
    | dial hl => simp [hl, Position.running] at hrun
    | opened hl => simp [hl, Position.running] at hrun
    | unopened hl => simp [hl, Position.running] at hrun
    | received hl => simp [hl, Position.running] at hrun
    | ended hl => simp [hl, Position.running] at hrun
    | handled hl => simp [hl, Position.running] at hrun
    | exhausted hl => simp [hl, Position.running] at hrun
    | again hl => simp [hl, Position.running] at hrun
    | leave hl => simp [hl, Position.running] at hrun
    | renew hl => simp [hl, Position.running] at hrun
    | publish hl => simp [hl, Position.running] at hrun
    | _ => exact .inl (by simpa [Started, send, advance, setCall, cancel, markStopped] using h)

theorem ready_or_telling (hm : Moves s e s') (h : s'.ready = true) : s.ready = true ∨ .telling ∈ s.senders := by
  cases hm with
  | tell hi => exact .inr (List.mem_of_getElem? hi)
  | proceed => cases h
  | _ => exact .inl h

theorem Announced.moves (h : Announced s) (hs : Sound s) (hm : Moves s e s') : Announced s' := by
  have hkept : s.kept ≠ [] → s'.kept ≠ [] := by
    rcases kept_eq hm with ⟨hk, -⟩ | ⟨f, -, hk, -⟩ <;> rw [hk]
    · exact id
    · simp
  -- a registration for a later call comes after one for the first
  have hlater {k : Nat} {f : AgentFrame} {w : Bool} (hx : .offering k f w ∈ s.senders) (hf : f.isRegister = true)
      (hq : (k, f) ∈ s'.queued) : Registered s' := by
    rcases Nat.eq_zero_or_pos k with rfl | hk
    · exact ⟨f, hf, hq⟩
    · have hlt := hs.bounded.sender _ hx k rfl
      exact (h.started (.inr (.inr (by omega)))).moves hm
  have htold : s.ready = true ∨ .telling ∈ s.senders → Registered s' := fun ht => (h.told ht).moves hm
  refine ⟨?_, ?_, fun k f w hx hf => ?_, fun p hp hf => ?_, fun ht => ?_, fun ht => ?_⟩
  · rcases kept_eq hm with ⟨hk, hl⟩ | ⟨f, -, hk, hl⟩
    · rw [hk, hl, h.last]
    · rw [hk, hl, List.getLast?_concat]
  · rcases kept_eq hm with ⟨hk, -⟩ | ⟨f, hf, hk, -⟩ <;> rw [hk]
    · exact h.kept
    · simpa [or_imp, forall_and, hf] using h.kept
  · cases arises_of_mem hm hx with
    | before hx => exact hkept (h.offering k f w hx hf)
    | offering hold hk => exact hk hf
    | waiting hold => exact hkept (h.offering k f _ hold hf)
  · rcases queued_eq hm with hq | ⟨k, f, w, hx, hq⟩ <;> rw [hq] at hp
    · exact hkept (h.queued p hp hf)
    · rcases List.mem_append.1 hp with hp | hp
      · exact hkept (h.queued p hp hf)
      · rw [List.mem_singleton] at hp
        subst hp
        exact hkept (h.offering k f w hx hf)
  · rcases ht with ht | ht
    · exact htold (ready_or_telling hm ht)
    · cases arises_of_mem hm ht with
      | before hx => exact htold (.inr hx)
      | telling hx hf hq => exact hlater hx hf hq
  · rcases started_or_ready hs.placed hs.held hm ht with ht | ht
    · exact (h.started ht).moves hm
    · exact htold (.inl ht)

/-- A listener that is past the first registration can repeat one. -/
theorem Announced.exists_last (h : Announced s) (hr : Registered s) :
    ∃ r, r.isRegister = true ∧ s.lastRegister = some r ∧ s.kept.getLast? = some r := by
  obtain ⟨f, hf, hq⟩ := hr
  have hne := h.queued (0, f) hq hf
  refine ⟨s.kept.getLast hne, h.kept _ (List.getLast_mem hne), ?_, List.getLast?_eq_getLast_of_ne_nil hne⟩
  rw [h.last, List.getLast?_eq_getLast_of_ne_nil hne]

/-! ## What goes out on a call -/

/-- The stream of a call carries frames: what went out are the first of them, and as long as the other side holds the
stream the others are on their way. -/
structure Call.Carries (c : Call) (fs : List AgentFrame) : Prop where
  sent : c.sent <+: fs
  held : c.queue.receiving = true → c.sent ++ c.queue.waiting = fs
  dropped : c.queue.receiving = false → c.queue.waiting = []

/-- A step adds to a stream at most what a caller queues. -/
theorem Call.Carries.turns (fs : List AgentFrame) {c c' : Call} {k : Nat} (h : c.Carries (fs ++ s.put k))
    (ht : Turns s s' k c c') : c'.Carries (fs ++ s'.put k) := by
  obtain ⟨hsent, hheld, hdropped⟩ := h
  cases ht with
  | @queued f q hpush hq =>
    obtain ⟨hr, hw⟩ := Queue.push_accepted hpush
    have hr' : q.receiving = true := by
      rw [← hr, ← Queue.receiving_push c.queue f, hpush]
    rw [hq, ← List.append_assoc]
    refine ⟨hsent.trans (List.prefix_append _ _), fun _ => ?_, fun h => ?_⟩
    · rw [hw, ← List.append_assoc, hheld hr]
    · rw [show q.receiving = false from h] at hr'
      cases hr'
  | @taken f rest hw hq =>
    have hr : c.queue.receiving = true := by
      by_contra hr
      rw [hdropped (by simpa using hr)] at hw
      cases hw
    have hout : c.sent ++ [f] ++ c.queue.pop.2.waiting = fs ++ s'.put k := by
      rw [hq, Queue.waiting_pop hw, ← hheld hr, hw, List.append_assoc, List.singleton_append]
    refine ⟨⟨_, hout⟩, fun _ => hout, fun h => ?_⟩
    rw [Queue.receiving_pop, hr] at h
    cases h
  | released hq =>
    rw [hq]
    exact ⟨hsent, nofun, fun _ => rfl⟩
  | same hq | answered hp r hq | read hp hr hq | arrived r hq =>
    rw [hq]
    exact ⟨hsent, hheld, hdropped⟩

/-! ## All calls -/

/-- In a row of steps of a new channel, `e` happens to `s`. -/
def Occurs (limit : Nat) (es : List Event) (s : Interleaved) (e : Event) : Prop :=
  ∃ es₁ es₂, es = es₁ ++ e :: es₂ ∧ run { limit := limit } es₁ = some s

theorem Occurs.concat {limit : Nat} {es : List Event} {e' : Event} (h : Occurs limit es s e) :
    Occurs limit (es ++ [e']) s e := by
  obtain ⟨es₁, es₂, rfl, hrun⟩ := h
  exact ⟨es₁, es₂ ++ [e'], by rw [List.append_assoc, List.cons_append], hrun⟩

theorem occurs_last {limit : Nat} {es : List Event} (hrun : run { limit := limit } es = some s) (e : Event) :
    Occurs limit (es ++ [e]) s e :=
  ⟨es, [], rfl, hrun⟩

theorem prefix_put (hm : Moves s e s') (k : Nat) : s.put k <+: s'.put k := by
  rcases queued_eq hm with hq | ⟨j, f, w, -, hq⟩
  · rw [put, put, hq]
  · rw [put_append hq k]
    exact List.prefix_append _ _

/-- As long as there is one call, callers reach no other. -/
theorem put_zero (hb : Bounded s) (hlen : s.calls.length ≤ 1) : s.put 0 = s.queued.map Prod.snd := by
  have hall : s.queued.filter (fun p => p.1 = 0) = s.queued := by
    rw [List.filter_eq_self]
    intro p hp
    have hlt := hb.queued p hp
    simp
    omega
  rw [put, hall]

theorem opened_eq (hm : Moves s e s') : s'.opened = s.opened ∨ e = .dial ∧ ∃ k, s.position = .dialing k := by
  cases hm with
  | dial hl => exact .inr ⟨rfl, _, hl⟩
  | _ => exact .inl rfl

theorem handed_eq (hm : Moves s e s') : s'.handed = s.handed ∨ ∃ k, s.position = .reading k := by
  cases hm with
  | received hl hc hr => exact .inr ⟨_, hl⟩
  | _ => exact .inl rfl

/-- Only a listener that knows of a registration opens a call or hands over a frame. -/
theorem Announced.registered_of_moves (h : Announced s) (hm : Moves s e s')
    (hne : s'.opened ≠ s.opened ∨ s'.handed ≠ s.handed) : Registered s := by
  refine h.started (.inl ?_)
  rcases hne with hne | hne
  · rcases opened_eq hm with heq | ⟨-, k, hl⟩
    · exact absurd heq hne
    · simp [hl, Position.running]
  · rcases handed_eq hm with heq | ⟨k, hl⟩
    · exact absurd heq hne
    · simp [hl, Position.running]

/-- A stream made after a failed call is not the first one. -/
theorem Announced.exists_registered_call (h : Announced s) (hs : Sound s) (hl : s.position = .renewing) :
    Registered s ∧ 0 < s.calls.length := by
  have hr := h.started (.inl (by simp [hl, Position.running]))
  refine ⟨hr, ?_⟩
  obtain ⟨f, -, hq⟩ := hr
  exact hs.bounded.queued _ hq

/-- What the first call carries: at its opening, what had been queued until then. -/
def FirstCarries (limit : Nat) (es : List Event) (s : Interleaved) : Prop :=
  ∀ c, s.calls[0]? = some c → c.Carries (s.put 0) ∧
    (0 < s.opened → ∃ s₁, Occurs limit es s₁ .dial ∧ s₁.opened = 0 ∧ Registered s₁ ∧
      s₁.queued.map Prod.snd <+: s.put 0)

theorem FirstCarries.moves {limit : Nat} {es : List Event} (h : FirstCarries limit es s)
    (hrun : run { limit := limit } es = some s) (hs : Sound s) (ha : Announced s) (hm : Moves s e s') :
    FirstCarries limit (es ++ [e]) s' := by
  intro c' hc'
  rcases origin_of_getElem? hs.placed hs.held hm hc' with ⟨c, hc, ht⟩ | ⟨-, hnil, -, rfl, hq⟩ | ⟨-, hl, hlen, -⟩
  · obtain ⟨hcarries, hdial⟩ := h c hc
    refine ⟨Call.Carries.turns [] hcarries ht, fun hpos => ?_⟩
    rcases Nat.eq_zero_or_pos s.opened with hzero | hopened
    · rcases opened_eq hm with heq | ⟨rfl, k, hl⟩
      · omega
      · have hlen : s.calls.length ≤ 1 := by
          have hp := hs.placed
          rw [Placed, hl] at hp
          omega
        refine ⟨s, occurs_last hrun _, hzero, ha.started (.inl (by simp [hl, Position.running])), ?_⟩
        rw [← put_zero hs.bounded hlen]
        exact prefix_put hm 0
    · obtain ⟨s₁, ho, hzero, hr, hpre⟩ := hdial hopened
      exact ⟨s₁, ho.concat, hzero, hr, hpre.trans (prefix_put hm 0)⟩
  · have hput : s'.put 0 = [] := by
      rw [put, hq]
      exact put_eq_nil hs.bounded.queued (by simp [hnil])
    have hzero : s'.opened = 0 := by
      have hle := hs.placed.opened_le
      rw [hnil, List.length_nil] at hle
      rcases opened_eq hm with heq | ⟨-, k, hl⟩
      · omega
      · have hp := hs.placed
        rw [Placed, hl, hnil] at hp
        cases hp.1
    rw [hput]
    exact ⟨⟨List.nil_prefix, fun _ => rfl, fun _ => rfl⟩, fun h => by omega⟩
  · have hpos := (ha.exists_registered_call hs hl).2
    omega

/-- What the calls after the first carry: first of all the registration that had been kept last when the stream was
made. -/
def LaterCarry (limit : Nat) (es : List Event) (s : Interleaved) : Prop :=
  ∀ k c, 0 < k → s.calls[k]? = some c →
    ∃ s₁ r, Occurs limit es s₁ .renew ∧ s₁.calls.length = k ∧ s₁.kept.getLast? = some r ∧ r.isRegister = true ∧
      c.Carries (r :: s.put k)

theorem carries_freshCall (r : AgentFrame) : (freshCall (some r)).Carries [r] :=
  ⟨List.nil_prefix, fun _ => rfl, fun h => by cases h⟩

theorem LaterCarry.moves {limit : Nat} {es : List Event} (h : LaterCarry limit es s)
    (hrun : run { limit := limit } es = some s) (hs : Sound s) (ha : Announced s) (hm : Moves s e s') :
    LaterCarry limit (es ++ [e]) s' := by
  intro k c' hk hc'
  rcases origin_of_getElem? hs.placed hs.held hm hc' with ⟨c, hc, ht⟩ | ⟨-, -, hzero, -⟩ | ⟨rfl, hl, rfl, rfl, hq⟩
  · obtain ⟨s₁, r, ho, hlen, hlast, hr, hcarries⟩ := h k c hk hc
    exact ⟨s₁, r, ho.concat, hlen, hlast, hr, Call.Carries.turns [r] hcarries ht⟩
  · omega
  · obtain ⟨r, hr, hlast, hkept⟩ := ha.exists_last (ha.exists_registered_call hs hl).1
    refine ⟨s, r, occurs_last hrun _, rfl, hkept, hr, ?_⟩
    have hput : s'.put s.calls.length = [] := by
      rw [put, hq]
      exact put_eq_nil hs.bounded.queued (Nat.le_refl _)
    rw [hput, hlast]
    exact carries_freshCall r

/-- **Every call begins with a registration.** In whatever order callers, the listener and the other side take their
steps, and however the calls go: no call is opened and no frame is handed to the handler before a registration has been
queued for the first call; the first call carries what callers queue in the order in which they queue it, and what they
had queued when it was opened, a registration among it, comes first; every later call carries one frame of the listener,
the registration that callers had kept last when its stream was made, and after it what callers queue for this call. -/
theorem registration_first (limit : Nat) (es : List Event) (s : Interleaved)
    (hrun : run { limit := limit } es = some s) :
    (∀ e s', s.react e = some s' → s'.opened ≠ s.opened ∨ s'.handed ≠ s.handed → Registered s) ∧
      (∀ c, s.calls[0]? = some c → c.Carries (s.put 0) ∧
        (0 < s.opened → ∃ s₁, Occurs limit es s₁ .dial ∧ s₁.opened = 0 ∧ Registered s₁ ∧
          s₁.queued.map Prod.snd <+: s.put 0)) ∧
      ∀ k c, 0 < k → s.calls[k]? = some c →
        ∃ s₁ r, Occurs limit es s₁ .renew ∧ s₁.calls.length = k ∧ s₁.kept.getLast? = some r ∧ r.isRegister = true ∧
          c.Carries (r :: s.put k) := by
  have hall : Sound s ∧ Announced s ∧ FirstCarries limit es s ∧ LaterCarry limit es s := by
    refine run_induction (P := fun es s => Sound s ∧ Announced s ∧ FirstCarries limit es s ∧ LaterCarry limit es s)
      ⟨sound_new limit, announced_new limit, nofun, fun k c hk hc => nomatch hc⟩ ?_ hrun
    rintro es e s₁ s₂ hrun ⟨hs, ha, hf, hl⟩ hm
    exact ⟨hs.moves hm, ha.moves hs hm, hf.moves hrun hs ha hm, hl.moves hrun hs ha hm⟩
  obtain ⟨-, ha, hfirst, hlater⟩ := hall
  exact ⟨fun e s' he hne => ha.registered_of_moves (moves_of_react he) hne, hfirst, hlater⟩

/-- A registration that has been kept but not queued yet when the first call fails is what the second one begins with. -/
theorem registration_first_kept_in_between :
    let register : AgentFrame := { body := some (.register {}) }
    let newer : AgentFrame := { action := 1, body := some (.register {}) }
    let es : List Event :=
      [.establish, .send {}, .keep 0, .offer 0, .send register, .keep 1, .offer 1, .tell 1, .proceed, .dial,
        .take 0, .answer (.ok ()), .send newer, .keep 2, .arrive 0 (.error .streamClosed), .receive, .judge, .renew,
        .publish, .dial, .send {}, .keep 3, .offer 3, .take 1, .offer 2]
    ∃ s c, run { limit := 1 } es = some s ∧ s.calls[1]? = some c ∧ c.sent = [newer] ∧
      ∃ s₁, Occurs 1 es s₁ .renew ∧ s₁.kept.getLast? = some newer := by
  intro register newer es
  refine ⟨_, _, rfl, rfl, rfl, ?_⟩
  obtain ⟨s₁, r, ho, -, hlast, -, hcarries⟩ := (registration_first 1 es _ rfl).2.2 1 _ (by decide) rfl
  obtain ⟨rest, hrest⟩ := hcarries.sent
  cases hrest
  exact ⟨s₁, ho, hlast⟩

end Custodian.Interleaved
