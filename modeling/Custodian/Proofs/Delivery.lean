import Custodian.Proofs.Interleaved

/-!
# What the handler is given

* `Call.delivered`, `Call.seen` : the frames that a call delivers, and those of them that the listener has read;
* `Call.Unanswered`, `Call.Going`, `Call.Done` : how far a call has come; `Delivering` : all calls but the last are
  done, and the place of the listener tells how far the last one is;
* `handed_eq_delivered` : the handler is given what the calls deliver, call by call, one frame at a time.
-/

namespace Custodian.Interleaved

set_option autoImplicit false

variable {s s' : Interleaved} {e : Event}

/-! ## The frames of a call -/

/-- The frames that come in before a call ends. -/
def framesBefore : List (Except Error OrchestratorFrame) → List OrchestratorFrame
  | .ok f :: rs => f :: framesBefore rs
  | _ => []

@[simp] theorem framesBefore_nil : framesBefore [] = [] := rfl

@[simp] theorem framesBefore_error (e : Error) (rs : List (Except Error OrchestratorFrame)) :
    framesBefore (.error e :: rs) = [] := rfl

theorem framesBefore_map_append (fs : List OrchestratorFrame) (rs : List (Except Error OrchestratorFrame)) :
    framesBefore (fs.map .ok ++ rs) = fs ++ framesBefore rs := by
  induction fs with
  | nil => rfl
  | cons f fs ih => rw [List.map_cons, List.cons_append, framesBefore, ih, List.cons_append]

namespace Call

/-- The frames that a call delivers before it fails; none if it cannot be opened. -/
def delivered (c : Call) : List OrchestratorFrame :=
  match c.answer with
  | some (.ok _) => framesBefore c.inbound
  | _ => []

/-- The frames that the listener has read from a call. -/
def seen (c : Call) : List OrchestratorFrame := framesBefore (c.inbound.take c.read)

/-- A call has failed: it could not be opened, or the listener has come to its end. -/
def Failed (c : Call) : Prop := (∃ e, c.answer = some (.error e)) ∨ ∃ e, .error e ∈ c.inbound.take c.read

/-- It is not known whether the call can be opened. -/
structure Unanswered (c : Call) : Prop where
  answer : c.answer = none
  read : c.read = 0

/-- The call is open, and all that was read from it are frames. -/
structure Going (c : Call) : Prop where
  answer : c.answer = some (.ok ())
  read_le : c.read ≤ c.inbound.length
  read : c.inbound.take c.read = c.seen.map .ok

/-- The call could not be opened, or what was read from it are frames and its end. -/
inductive Done (c : Call) : Prop
  | refused (e : Error) (answer : c.answer = some (.error e)) (read : c.read = 0)
  | ended (answer : c.answer = some (.ok ())) (read_le : c.read ≤ c.inbound.length) (e : Error)
    (read : c.inbound.take c.read = c.seen.map .ok ++ [.error e])

variable {c d : Call}

theorem Unanswered.seen_eq (h : c.Unanswered) : c.seen = [] := by rw [seen, h.read, List.take_zero, framesBefore_nil]

theorem Unanswered.delivered_eq (h : c.Unanswered) : c.delivered = [] := by rw [delivered, h.answer]

theorem Going.delivered_eq (h : c.Going) : c.delivered = c.seen ++ framesBefore (c.inbound.drop c.read) := by
  have hin : c.inbound = c.seen.map .ok ++ c.inbound.drop c.read := by rw [← h.read, List.take_append_drop]
  rw [delivered, h.answer]
  show framesBefore c.inbound = _
  rw [hin, framesBefore_map_append, ← hin]

theorem Going.not_failed (h : c.Going) : ¬ c.Failed := by simp [Failed, h.answer, h.read]

theorem Done.failed (h : c.Done) : c.Failed := by
  cases h with
  | refused e answer => exact .inl ⟨e, answer⟩
  | ended answer hle e read => exact .inr ⟨e, by simp [read]⟩

theorem Done.delivered_eq (h : c.Done) : c.delivered = c.seen := by
  cases h with
  | refused e answer read =>
    rw [delivered, answer, seen, read]
    rfl
  | ended answer hle e read =>
    have hin : c.inbound = c.seen.map .ok ++ .error e :: c.inbound.drop c.read := by
      rw [List.append_cons, ← read, List.take_append_drop]
    rw [delivered, answer]
    show framesBefore c.inbound = _
    rw [hin, framesBefore_map_append, framesBefore_error, List.append_nil]

/-- What the place of the listener tells of the last call. -/
def Stands (c : Call) : Position → Prop
  | .waiting | .dialing _ | .publishing _ | .opening _ => c.Unanswered
  | .reading _ | .handling _ _ => c.Going
  | .absent | .failed | .leaving | .renewing => c.Done
  | .gone => c.Unanswered ∨ c.Going ∨ c.Done

/-- A call changes in a way that the listener does not see. -/
structure Quiet (c d : Call) : Prop where
  answer : d.answer = c.answer
  read : d.read = c.read
  inbound : c.inbound <+: d.inbound

namespace Quiet

theorem of_eq (ha : d.answer = c.answer) (hr : d.read = c.read) (hi : d.inbound = c.inbound) : Quiet c d :=
  ⟨ha, hr, hi ▸ List.prefix_rfl⟩

theorem take_eq (h : Quiet c d) (hle : c.read ≤ c.inbound.length) : d.inbound.take d.read = c.inbound.take c.read := by
  obtain ⟨rest, hrest⟩ := h.inbound
  rw [h.read, ← hrest, List.take_append_of_le_length hle]

theorem seen_eq (h : Quiet c d) (hle : c.read ≤ c.inbound.length) : d.seen = c.seen := by
  rw [seen, seen, h.take_eq hle]

theorem read_le (h : Quiet c d) (hle : c.read ≤ c.inbound.length) : d.read ≤ d.inbound.length := by
  rw [h.read]
  exact hle.trans h.inbound.length_le

theorem unanswered (h : Quiet c d) (hc : c.Unanswered) : d.Unanswered :=
  ⟨h.answer.trans hc.answer, h.read.trans hc.read⟩

theorem going (h : Quiet c d) (hc : c.Going) : d.Going :=
  ⟨h.answer.trans hc.answer, h.read_le hc.read_le, by rw [h.take_eq hc.read_le, h.seen_eq hc.read_le, hc.read]⟩

theorem done (h : Quiet c d) (hc : c.Done) : d.Done := by
  cases hc with
  | refused e answer read => exact .refused e (h.answer.trans answer) (h.read.trans read)
  | ended answer hle e read =>
    exact .ended (h.answer.trans answer) (h.read_le hle) e (by rw [h.take_eq hle, h.seen_eq hle, read])

theorem failed (h : Quiet c d) (hc : c.Failed) : d.Failed := by
  refine hc.imp (fun ⟨e, he⟩ => ⟨e, h.answer.trans he⟩) fun ⟨e, he⟩ => ⟨e, ?_⟩
  rw [h.read]
  exact (h.inbound.take c.read).subset he

theorem stands (h : Quiet c d) {p : Position} (hc : c.Stands p) : d.Stands p := by
  cases p with
  | waiting | dialing k | publishing k | opening k => exact h.unanswered hc
  | reading k | handling k f => exact h.going hc
  | absent | failed | leaving | renewing => exact h.done hc
  | gone => exact hc.imp h.unanswered (Or.imp h.going h.done)

end Quiet

theorem Stands.gone {p : Position} (h : c.Stands p) : c.Stands .gone := by
  cases p with
  | waiting | dialing k | publishing k | opening k => exact .inl h
  | reading k | handling k f => exact .inr (.inl h)
  | absent | failed | leaving | renewing => exact .inr (.inr h)
  | gone => exact h

theorem Stands.read_le {p : Position} (h : c.Stands p) : c.read ≤ c.inbound.length := by
  rcases h.gone with hu | hg | ho
  · simp [hu.read]
  · exact hg.read_le
  · cases ho with
    | refused e answer read => simp [read]
    | ended answer hle => exact hle

end Call

/-! ## All calls -/

/-- How often the handler was called and has not returned. -/
def Pending (p : Position) (handed returned : Nat) : Prop :=
  match p with
  | .handling _ _ => handed = returned + 1
  | .gone => returned ≤ handed ∧ handed ≤ returned + 1
  | _ => handed = returned

theorem Pending.gone {p : Position} {handed returned : Nat} (h : Pending p handed returned) :
    Pending .gone handed returned := by
  cases p with
  | gone => exact h
  | handling k f => exact ⟨(Nat.le_succ _).trans h.ge, h.le⟩
  | _ => exact ⟨h.ge, h.le.trans (Nat.le_succ _)⟩

/-- All calls but the last are done, the listener tells how far the last one is, and the handler was given what was
read. -/
structure Delivering (s : Interleaved) : Prop where
  before : ∀ k c, s.calls[k]? = some c → k + 1 < s.calls.length → c.Done
  last : ∀ k c, s.calls[k]? = some c → k + 1 = s.calls.length → c.Stands s.position
  handed : s.handed = s.calls.flatMap Call.seen
  pending : Pending s.position s.handed.length s.returned

theorem delivering_new (limit : Nat) : Delivering { limit := limit } :=
  ⟨nofun, nofun, rfl, rfl⟩

theorem Delivering.stands (h : Delivering s) {k : Nat} {c : Call} (hc : s.calls[k]? = some c) :
    c.Stands .gone := by
  have hk := (List.getElem?_eq_some_iff.1 hc).1
  rcases Nat.lt_or_eq_of_le hk with hk | hk
  · exact .inr (.inr (h.before k c hc hk))
  · exact (h.last k c hc hk).gone

/-- What the listener does not see changes nothing. -/
theorem Delivering.of_quiet (h : Delivering s) (hlen : s'.calls.length = s.calls.length)
    (hquiet : ∀ (k : Nat) (c : Call), s.calls[k]? = some c → ∃ d, s'.calls[k]? = some d ∧ c.Quiet d)
    (hlast : ∀ c : Call, c.Stands s.position → c.Stands s'.position) (hhanded : s'.handed = s.handed)
    (hpending : Pending s'.position s'.handed.length s'.returned) : Delivering s' := by
  -- the calls are the same ones, so what is known of a call is known of what became of it
  have back {k : Nat} {d : Call} (hd : s'.calls[k]? = some d) : ∃ c, s.calls[k]? = some c ∧ c.Quiet d := by
    have hk : k < s.calls.length := hlen ▸ (List.getElem?_eq_some_iff.1 hd).1
    obtain ⟨d', hd', hq⟩ := hquiet k _ (List.getElem?_eq_getElem hk)
    cases hd.symm.trans hd'
    exact ⟨_, List.getElem?_eq_getElem hk, hq⟩
  refine ⟨fun k d hd hk => ?_, fun k d hd hk => ?_, ?_, hpending⟩
  · obtain ⟨c, hc, hq⟩ := back hd
    exact hq.done (h.before k c hc (by omega))
  · obtain ⟨c, hc, hq⟩ := back hd
    exact hq.stands (hlast c (h.last k c hc (by omega)))
  · have hseen : s'.calls.map Call.seen = s.calls.map Call.seen := by
      apply List.ext_getElem?
      intro k
      rw [List.getElem?_map, List.getElem?_map]
      cases hc : s.calls[k]? with
      | none =>
        rw [List.getElem?_eq_none (hlen ▸ List.getElem?_eq_none_iff.1 hc)]
      | some c =>
        obtain ⟨d, hd, hq⟩ := hquiet k c hc
        rw [hd, Option.map_some, Option.map_some, hq.seen_eq (h.stands hc).read_le]
    rw [hhanded, h.handed, List.flatMap_def, List.flatMap_def, hseen]

theorem Delivering.setCall (h : Delivering s) {k : Nat} {c d : Call} (hc : s.calls[k]? = some c) (hq : c.Quiet d) :
    Delivering (s.setCall k d) := by
  refine h.of_quiet List.length_set (fun j b hb => ⟨_, getElem?_setCall hb d, ?_⟩) (fun _ => id) rfl h.pending
  split_ifs with hj
  · subst hj
    cases hb.symm.trans hc
    exact hq
  · exact .of_eq rfl rfl rfl

/-- The listener goes from one place to another. -/
theorem Delivering.along (h : Delivering s) {p : Position} (hl : s.position = p) (hcalls : s'.calls = s.calls)
    (hlast : ∀ c : Call, c.Stands p → c.Stands s'.position) (hhanded : s'.handed = s.handed)
    (hpending : Pending p s.handed.length s.returned → Pending s'.position s'.handed.length s'.returned) :
    Delivering s' := by
  subst hl
  exact h.of_quiet (by rw [hcalls]) (fun k c hc => ⟨c, by rw [hcalls, hc], .of_eq rfl rfl rfl⟩) hlast hhanded
    (hpending h.pending)

theorem flatMap_set_last {l : List Call} {k : Nat} {c d : Call} {new : List OrchestratorFrame} (hc : l[k]? = some c)
    (hk : k + 1 = l.length) (hs : d.seen = c.seen ++ new) :
    (l.set k d).flatMap Call.seen = l.flatMap Call.seen ++ new := by
  induction l generalizing k with
  | nil => cases hc
  | cons a l ih =>
    cases k with
    | zero =>
      cases hc
      have hnil : l = [] := by simpa using hk
      subst hnil
      simp [hs]
    | succ k =>
      rw [List.set_cons_succ, List.flatMap_cons, List.flatMap_cons, ih hc (by simpa using hk), List.append_assoc]

/-- The listener learns something of the last call, and hands over what it has read. -/
theorem Delivering.of_last (h : Delivering s) {k : Nat} {c d : Call} (hc : s.calls[k]? = some c)
    (hk : k + 1 = s.calls.length) (hcalls : s'.calls = s.calls.set k d) (hd : d.Stands s'.position)
    (new : List OrchestratorFrame) (hseen : d.seen = c.seen ++ new) (hhanded : s'.handed = s.handed ++ new)
    (hpending : Pending s'.position s'.handed.length s'.returned) : Delivering s' := by
  have hlen : s'.calls.length = s.calls.length := by rw [hcalls, List.length_set]
  refine ⟨fun j b hb hj => ?_, fun j b hb hj => ?_, ?_, hpending⟩
  · rw [hcalls, List.getElem?_set_ne (by omega)] at hb
    exact h.before j b hb (by omega)
  · have hjk : j = k := by omega
    subst hjk
    rw [hcalls, List.getElem?_set_self (by omega)] at hb
    cases hb
    exact hd
  · rw [hcalls, hhanded, flatMap_set_last hc hk hseen, h.handed]

/-! ## One step -/

namespace Call

variable {c : Call}

theorem Unanswered.opens (h : c.Unanswered) :
    ({ c with answer := some (.ok ()) } : Call).Going ∧ ({ c with answer := some (.ok ()) } : Call).seen = c.seen := by
  have hseen : ({ c with answer := some (.ok ()) } : Call).seen = [] := h.seen_eq
  refine ⟨⟨rfl, by simp [h.read], ?_⟩, rfl⟩
  rw [hseen, h.read]
  rfl

/-- What the listener has read from an open call once it has read one more. -/
theorem Going.take_succ (h : c.Going) {r : Except Error OrchestratorFrame} (hr : c.inbound[c.read]? = some r) :
    c.inbound.take (c.read + 1) = c.seen.map .ok ++ [r] := by
  rw [List.take_add_one, hr, h.read]
  rfl

theorem Going.reads (h : c.Going) {f : OrchestratorFrame} (hr : c.inbound[c.read]? = some (.ok f)) :
    ({ c with read := c.read + 1 } : Call).Going ∧
      ({ c with read := c.read + 1 } : Call).seen = c.seen ++ [f] := by
  have htake := h.take_succ hr
  have hseen : ({ c with read := c.read + 1 } : Call).seen = c.seen ++ [f] := by
    rw [seen, htake, framesBefore_map_append]
    rfl
  refine ⟨⟨h.answer, (List.getElem?_eq_some_iff.1 hr).1, ?_⟩, hseen⟩
  rw [hseen, List.map_append]
  exact htake

theorem Going.ends (h : c.Going) {e : Error} (hr : c.inbound[c.read]? = some (.error e)) :
    ({ c with read := c.read + 1 } : Call).Done ∧ ({ c with read := c.read + 1 } : Call).seen = c.seen := by
  have htake := h.take_succ hr
  have hseen : ({ c with read := c.read + 1 } : Call).seen = c.seen := by
    rw [seen, htake, framesBefore_map_append, framesBefore_error, List.append_nil]
  refine ⟨.ended h.answer (List.getElem?_eq_some_iff.1 hr).1 e ?_, hseen⟩
  rw [hseen]
  exact htake

end Call

theorem unanswered_freshCall (last : Option AgentFrame) : (freshCall last).Unanswered := by
  cases last <;> exact ⟨rfl, rfl⟩

/-- The last call is done when the next one is made. -/
theorem Delivering.renew (h : Delivering s) (hl : s.position = .renewing) : Delivering s.renew := by
  have hpend := h.pending
  rw [hl] at hpend
  have hfresh := unanswered_freshCall s.lastRegister
  refine ⟨fun k c hc hk => ?_, fun k c hc hk => ?_, ?_, hpend⟩
  · replace hk : k + 1 < (s.calls ++ [freshCall s.lastRegister]).length := hk
    rw [List.length_append, List.length_singleton] at hk
    replace hc : (s.calls ++ [freshCall s.lastRegister])[k]? = some c := hc
    rw [List.getElem?_append_left (by omega)] at hc
    rcases Nat.lt_or_eq_of_le (Nat.le_of_lt_succ hk) with hk | hk
    · exact h.before k c hc hk
    · simpa [hl, Call.Stands] using h.last k c hc hk
  · replace hk : k + 1 = (s.calls ++ [freshCall s.lastRegister]).length := hk
    rw [List.length_append, List.length_singleton, Nat.add_right_cancel_iff] at hk
    replace hc : (s.calls ++ [freshCall s.lastRegister])[k]? = some c := hc
    rw [hk, List.getElem?_concat_length] at hc
    cases hc
    exact hfresh
  · show s.handed = (s.calls ++ [freshCall s.lastRegister]).flatMap Call.seen
    rw [List.flatMap_append, List.flatMap_singleton, hfresh.seen_eq, List.append_nil, h.handed]

theorem Delivering.moves (h : Delivering s) (hp : Placed s) (hh : Held s) (hm : Moves s e s') : Delivering s' := by
  have hpend := h.pending
  cases hm with
  | establish he hc =>
    have habsent : s.position = .absent := by simpa [he] using hh hc
    rw [Placed, habsent] at hp
    have hhanded := h.handed
    rw [hp.1, List.flatMap_nil] at hhanded
    rw [habsent] at hpend
    refine ⟨fun k c hc hk => ?_, fun k c hc hk => ?_, hhanded, hpend⟩
    · simp at hk
    · cases k with
      | zero =>
        cases hc
        exact ⟨rfl, rfl⟩
      | succ k => simp at hk
  | @queue i k f w c q hi hc hq =>
    obtain ⟨hbefore, hlast, hhanded, hpending⟩ := h.setCall (d := { c with queue := q }) hc (.of_eq rfl rfl rfl)
    exact ⟨hbefore, hlast, hhanded, hpending⟩
  | arrive hk hc r => exact h.setCall hc ⟨rfl, rfl, List.prefix_append _ _⟩
  | take hk hc hw => exact h.setCall hc (.of_eq rfl rfl rfl)
  | release hk hc => exact h.setCall hc (.of_eq rfl rfl rfl)
  | @opened k c hl hc =>
    obtain ⟨hk, -⟩ := hp.of_call (k := k) (by rw [hl]; rfl)
    have hu : c.Unanswered := by simpa [hl, Call.Stands] using h.last k c hc hk
    rw [hl] at hpend
    obtain ⟨hgoing, hseen⟩ := hu.opens
    exact h.of_last hc hk rfl hgoing [] (by rw [hseen, List.append_nil]) (List.append_nil _).symm hpend
  | @unopened k c hl hc err =>
    obtain ⟨hk, -⟩ := hp.of_call (k := k) (by rw [hl]; rfl)
    have hu : c.Unanswered := by simpa [hl, Call.Stands] using h.last k c hc hk
    rw [hl] at hpend
    have hdone : ({ c with answer := some (.error err) } : Call).Done := .refused err rfl hu.read
    exact h.of_last hc hk rfl hdone [] (List.append_nil _).symm (List.append_nil _).symm hpend
  | @received k c f hl hc hr =>
    obtain ⟨hk, -⟩ := hp.of_call (k := k) (by rw [hl]; rfl)
    have hg : c.Going := by simpa [hl, Call.Stands] using h.last k c hc hk
    rw [hl] at hpend
    obtain ⟨hgoing, hseen⟩ := hg.reads hr
    refine h.of_last hc hk rfl hgoing [f] hseen rfl ?_
    -- the handler has returned from all frames before this one
    show (s.handed ++ [f]).length = s.returned + 1
    rw [List.length_append, show s.handed.length = s.returned from hpend]
    rfl
  | @ended k c err hl hc hr =>
    obtain ⟨hk, -⟩ := hp.of_call (k := k) (by rw [hl]; rfl)
    have hg : c.Going := by simpa [hl, Call.Stands] using h.last k c hc hk
    rw [hl] at hpend
    obtain ⟨hdone, hseen⟩ := hg.ends hr
    exact h.of_last hc hk rfl hdone [] (by rw [hseen, List.append_nil]) (List.append_nil _).symm hpend
  | renew hl => exact h.renew hl
  | stop hcancel hw =>
    refine h.of_quiet (length_calls_stop s) (fun k c hc => ⟨_, getElem?_stop hc, ?_⟩) (fun c => Call.Stands.gone) rfl ?_
    · split_ifs <;> exact .of_eq rfl rfl rfl
    · exact hpend.gone
  | proceed hl hr => exact h.along hl rfl (fun _ => id) rfl id
  | dial hl | handled hl | exhausted hl | again hl | publish hl => exact h.along hl rfl (fun _ => id) rfl id
  | leave hl => exact h.along hl rfl (fun _ => Call.Stands.gone) rfl Pending.gone
  | _ => exact ⟨h.before, h.last, h.handed, h.pending⟩

/-- A listener that was not stopped ends after a failed call. -/
def Exhausted (s : Interleaved) : Prop :=
  s.cancelled = false → s.position = .gone → ∀ (k : Nat) (c : Call), s.calls[k]? = some c → c.Failed

theorem Exhausted.setCall (h : Exhausted s) {k : Nat} {c d : Call} (hc : s.calls[k]? = some c) (hq : c.Quiet d) :
    Exhausted (s.setCall k d) := by
  intro hcancel hgone j b hb
  have hj := (List.getElem?_eq_some_iff.1 hb).1
  simp only [Interleaved.setCall, List.length_set] at hj
  have hold := List.getElem?_eq_getElem hj
  have hfailed := h hcancel hgone j _ hold
  rw [getElem?_setCall hold d, Option.some.injEq] at hb
  split_ifs at hb with hjk
  · subst hjk hb
    cases hc.symm.trans hold
    exact hq.failed hfailed
  · exact hb ▸ hfailed

theorem Exhausted.moves (h : Exhausted s) (hd : Delivering s) (hm : Moves s e s') : Exhausted s' := by
  cases hm with
  | @queue i k f w c q hi hc hq => exact h.setCall (d := { c with queue := q }) hc (.of_eq rfl rfl rfl)
  | arrive hk hc r => exact h.setCall hc ⟨rfl, rfl, List.prefix_append _ _⟩
  | take hk hc hw => exact h.setCall hc (.of_eq rfl rfl rfl)
  | release hk hc => exact h.setCall hc (.of_eq rfl rfl rfl)
  | leave hl =>
    intro _ _ k c hc
    have hk : k + 1 ≤ s.calls.length := (List.getElem?_eq_some_iff.1 hc).1
    rcases Nat.lt_or_eq_of_le hk with hk | hk
    · exact (hd.before k c hc hk).failed
    · have hstands := hd.last k c hc hk
      rw [hl] at hstands
      exact Call.Done.failed hstands
  | stop hcancel hw =>
    intro hnot
    cases hcancel.symm.trans hnot
  | close | beginShutdown =>
    intro hnot
    cases hnot
  | establish | proceed | dial | opened | unopened | received | ended | handled | exhausted | again | renew | publish =>
    intro _ hgone
    cases hgone
  | _ => exact h

/-! ## Every run -/

theorem delivering_of_run {limit : Nat} {es : List Event} (hrun : run { limit := limit } es = some s) :
    Sound s ∧ Delivering s ∧ Exhausted s :=
  run_preserves (P := fun s => Sound s ∧ Delivering s ∧ Exhausted s)
    (fun ⟨hs, hd, hx⟩ hm => ⟨hs.moves hm, hd.moves hs.placed hs.held hm, hx.moves hd hm⟩) hrun
    ⟨sound_new limit, delivering_new limit, by simp [Exhausted]⟩

theorem Call.Stands.seen_prefix {c : Call} (h : c.Stands .gone) : c.seen <+: c.delivered := by
  rcases h with hu | hg | ho
  · rw [hu.seen_eq]
    exact List.nil_prefix
  · rw [hg.delivered_eq]
    exact List.prefix_append _ _
  · rw [ho.delivered_eq]

/-- Whether the whole of a call has been read. -/
theorem Call.Stands.seen_eq {c : Call} (h : c.Stands .gone) (hc : c.Failed ∨ c.read = c.inbound.length) :
    c.seen = c.delivered := by
  rcases h with hu | hg | ho
  · rw [hu.delivered_eq, hu.seen_eq]
  · have hread := hc.resolve_left hg.not_failed
    rw [hg.delivered_eq, hread, List.drop_length, framesBefore_nil, List.append_nil]
  · exact ho.delivered_eq.symm

theorem Delivering.handed_eq (h : Delivering s) {before : List Call} {c : Call} (hcalls : s.calls = before ++ [c]) :
    s.handed = before.flatMap Call.delivered ++ c.seen ∧ ∀ b ∈ before, b.Failed := by
  have hdone : ∀ b ∈ before, b.Done := by
    intro b hb
    obtain ⟨k, hk, rfl⟩ := List.mem_iff_getElem.1 hb
    refine h.before k _ ?_ ?_
    · rw [hcalls, List.getElem?_append_left hk, List.getElem?_eq_getElem hk]
    · rw [hcalls, List.length_append, List.length_singleton]
      omega
  refine ⟨?_, fun b hb => (hdone b hb).failed⟩
  rw [h.handed, hcalls, List.flatMap_append, List.flatMap_singleton, List.flatMap_def, List.flatMap_def,
    List.map_congr_left fun b hb => (hdone b hb).delivered_eq.symm]

/-- As long as nobody cancels the channel, all that came in is handed over, or the next of it can be. -/
theorem Delivering.complete (h : Delivering s) (hx : Exhausted s) (hp : Placed s) (hcancel : s.cancelled = false)
    {before : List Call} {c : Call} (hcalls : s.calls = before ++ [c]) :
    c.seen = c.delivered ∨ (∃ k f, s.position = .handling k f) ∨ ∃ s', s.react .receive = some s' := by
  have hc : s.calls[before.length]? = some c := by rw [hcalls, List.getElem?_concat_length]
  have hlen : before.length + 1 = s.calls.length := by rw [hcalls, List.length_append, List.length_singleton]
  have hstands := h.last before.length c hc hlen
  cases hl : s.position with
  | waiting | dialing k | publishing k | opening k =>
    rw [hl] at hstands
    exact .inl (by rw [Call.Unanswered.delivered_eq hstands, Call.Unanswered.seen_eq hstands])
  | absent | failed | leaving | renewing =>
    rw [hl] at hstands
    exact .inl (Call.Done.delivered_eq hstands).symm
  | gone => exact .inl (hstands.gone.seen_eq (.inl (hx hcancel hl _ c hc)))
  | handling k f => exact .inr (.inl ⟨k, f, rfl⟩)
  | reading k =>
    rw [Placed, hl] at hp
    have hk : k = before.length := by omega
    subst hk
    rcases Nat.lt_or_ge c.read c.inbound.length with hread | hread
    · refine .inr (.inr ⟨s.read before.length c c.inbound[c.read], ?_⟩)
      simp only [react, hl, hc, List.getElem?_eq_getElem hread, Option.bind_some, Option.map_some]
    · exact .inl (hstands.gone.seen_eq (.inr (Nat.le_antisymm hstands.read_le hread)))

/-- **What the handler is given.** In whatever order callers, the listener and the other side take their steps, and
however the calls go: the handler is given what the calls before the last delivered until they failed, call by call, and
then what the listener has read from the last one, which is the whole of what it delivers once it has failed or nothing
more has come in; unless somebody cancels the channel the listener can read what is left; and a frame is handed over
only when the handler has returned from all frames before it and all calls before the one it came from have failed. -/
theorem handed_eq_delivered (limit : Nat) (es : List Event) (s : Interleaved)
    (hrun : run { limit := limit } es = some s) :
    (s.calls = [] → s.handed = []) ∧
      (∀ before c, s.calls = before ++ [c] →
        s.handed = before.flatMap Call.delivered ++ c.seen ∧ (∀ b ∈ before, b.Failed) ∧ c.seen <+: c.delivered ∧
          (c.Failed ∨ c.read = c.inbound.length → s.handed = s.calls.flatMap Call.delivered)) ∧
      (s.cancelled = false →
        s.handed = s.calls.flatMap Call.delivered ∨ (∃ k f, s.position = .handling k f) ∨
          ∃ s', s.react .receive = some s') ∧
      ∀ e s', s.react e = some s' → s'.handed ≠ s.handed →
        s.returned = s.handed.length ∧
          ∃ before c f, s.calls = before ++ [c] ∧ (∀ b ∈ before, b.Failed) ∧ c.inbound[c.read]? = some (.ok f) ∧
            s'.handed = s.handed ++ [f] := by
  obtain ⟨hs, hd, hx⟩ := delivering_of_run hrun
  have hnil (h : s.calls = []) : s.handed = [] := by rw [hd.handed, h, List.flatMap_nil]
  have hwhole {before : List Call} {c : Call} (hcalls : s.calls = before ++ [c]) (hseen : c.seen = c.delivered) :
      s.handed = s.calls.flatMap Call.delivered := by
    rw [(hd.handed_eq hcalls).1, hcalls, List.flatMap_append, List.flatMap_singleton, hseen]
  refine ⟨hnil, fun before c hcalls => ?_, fun hcancel => ?_, fun e s' he hne => ?_⟩
  · obtain ⟨hhanded, hfailed⟩ := hd.handed_eq hcalls
    have hstands : c.Stands .gone := hd.stands (k := before.length) (by rw [hcalls, List.getElem?_concat_length])
    exact ⟨hhanded, hfailed, hstands.seen_prefix, fun h => hwhole hcalls (hstands.seen_eq h)⟩
  · rcases List.eq_nil_or_concat' s.calls with h | ⟨before, c, hcalls⟩
    · exact .inl (by rw [hnil h, h, List.flatMap_nil])
    · exact (hd.complete hx hs.placed hcancel hcalls).imp_left (hwhole hcalls)
  · cases moves_of_react he with
    | @received k c f hl hc hr =>
      have hp := hs.placed
      have hpending := hd.pending
      rw [Placed, hl] at hp
      rw [hl] at hpending
      have hlast : s.calls.getLast? = some c := by
        rw [List.getLast?_eq_getElem?, hp.1]
        exact hc
      have hcalls := (List.dropLast_append_getLast? c hlast).symm
      exact ⟨hpending.symm, _, c, f, hcalls, (hd.handed_eq hcalls).2, hr, rfl⟩
    | _ => exact absurd rfl hne

/-- Three calls, the second of which cannot be opened; what comes in after the end of the first is lost. -/
theorem handed_eq_delivered_of_three_calls :
    let register : AgentFrame := { body := some (.register {}) }
    let frame (n : Int32) : OrchestratorFrame := { action := n }
    let es : List Event :=
      [.establish, .send register, .keep 0, .offer 0, .tell 0, .proceed, .dial, .answer (.ok ()),
        .arrive 0 (.ok (frame 1)), .arrive 0 (.ok (frame 2)), .receive, .handled, .arrive 0 (.error .streamClosed),
        .arrive 0 (.ok (frame 3)), .receive, .handled, .receive, .judge, .renew, .publish, .dial,
        .answer (.error .streamClosed), .judge, .renew, .publish, .dial, .answer (.ok ()), .arrive 2 (.ok (frame 4)),
        .receive]
    ∃ s, run { limit := 2 } es = some s ∧ s.handed = [frame 1, frame 2, frame 4] ∧
      s.handed = s.calls.flatMap Call.delivered := by
  intro register frame es
  have hend : ((run { limit := 2 } es).map fun s =>
      (s.handed, s.calls.getLast?.map fun c => (c.read, c.inbound.length))) =
        some ([frame 1, frame 2, frame 4], some (1, 1)) := by decide
  obtain ⟨s, hrun, hs⟩ := Option.map_eq_some_iff.1 hend
  rw [Prod.mk.injEq, Option.map_eq_some_iff] at hs
  obtain ⟨hhanded, c, hc, hread⟩ := hs
  have hlast := (handed_eq_delivered 2 es s hrun).2.1 _ c (List.dropLast_append_getLast? c hc).symm
  have hwhole : c.read = c.inbound.length := (congrArg Prod.fst hread).trans (congrArg Prod.snd hread).symm
  exact ⟨s, hrun, hhanded, hlast.2.2.2 (.inr hwhole)⟩

end Custodian.Interleaved
