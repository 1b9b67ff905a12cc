import Custodian.Queue.Outbound
import Mathlib.Tactic

/-!
# The order of an outbound stream

* `Outbound.Seated` : as many frames of the line have a place as there are places; `offer_eq`, `trySend_eq`, `send_eq`,
  `resume_eq` : then those in the line count like those in the queue, whoever wants to get in;
* `Outbound.Moves` : all that an act can do to the queue; `act_moves` : there is nothing else, and the line stays seated;
* `Outbound.Follows` : a stream is as the acts and their answers say; `Follows.snoc`, `Follows.append` : one more act, and
  any number;
* `Outbound.orderly_run` : what can be relied on after any acts.
-/

namespace Custodian

set_option autoImplicit false

namespace Outbound

variable {α : Type} {s s' : Outbound α} {n : Nat}

/-! ## Places -/

/-- As long as there is a receiver, the line has all places that are free, up to its last frame. -/
def Seated (s : Outbound α) : Prop :=
  s.queue.receiving = true → s.places = min s.line.length (s.queue.capacity - s.queue.waiting.length)

/-- A frame goes right into the queue. -/
def put (a : α) (s : Outbound α) : Outbound α := { s with queue := (s.queue.push a).2 }

/-- A frame of the line goes into the queue, to the place that it has. -/
def enter (i : Nat) (a : α) (s : Outbound α) : Outbound α :=
  { queue := (s.queue.push a).2, line := s.line.eraseIdx i, places := s.places - 1 }

/-- There is room for one more frame if, with those in the line, fewer than the capacity wait. -/
theorem offer_eq (h : s.Seated) (a : α) :
    s.offer a =
      if s.queue.receiving then
        if s.queue.waiting.length + s.line.length < s.queue.capacity then (.accepted, s.put a) else (.full, s)
      else (.closed, s) := by
  have hle := s.queue.waiting_le
  unfold offer
  by_cases hr : s.queue.receiving = true
  · have hplaces := h hr
    rw [if_pos hr]
    simp only [hr, true_and]
    split_ifs with hfull hroom hroom
    · omega
    · rfl
    · obtain ⟨_, hpush⟩ := Queue.push_room a hr (by omega)
      simp only [put, hpush]
    · omega
  · rw [if_neg (by simp [hr]), if_neg hr, Queue.push_closed a (by simpa using hr)]

theorem trySend_eq (h : s.Seated) (a : α) :
    s.trySend a =
      if s.queue.receiving ∧ s.queue.waiting.length + s.line.length < s.queue.capacity then (.accepted a, s.put a)
      else (.refused .streamClosed, s) := by
  rw [trySend, offer_eq h]
  by_cases hr : s.queue.receiving = true <;>
    by_cases hl : s.queue.waiting.length + s.line.length < s.queue.capacity <;> simp [hr, hl]

theorem send_eq (h : s.Seated) (a : α) :
    s.send a =
      if s.queue.receiving then
        if s.queue.waiting.length + s.line.length < s.queue.capacity then (.accepted a, s.put a)
        else (.waits, { s with line := s.line ++ [a] })
      else (.refused .streamClosed, s) := by
  rw [send, offer_eq h]
  by_cases hr : s.queue.receiving = true <;>
    by_cases hl : s.queue.waiting.length + s.line.length < s.queue.capacity <;> simp [hr, hl]

/-- A frame of the line has a place if, with those before it, fewer than the capacity wait. -/
theorem resume_eq (h : s.Seated) {i : Nat} {a : α} (hi : s.line[i]? = some a) :
    s.resume i = some
      (if s.queue.receiving then
        if s.queue.waiting.length + i < s.queue.capacity then (.accepted a, s.enter i a) else (.waits, s)
      else (.refused .streamClosed, s.leave i)) := by
  have hlen := (List.getElem?_eq_some_iff.1 hi).1
  rw [resume, hi, Option.map_some]
  by_cases hr : s.queue.receiving = true
  · have hplaces := h hr
    rw [if_pos hr]
    simp only [hr, true_and]
    split_ifs with hnone hroom hroom
    · omega
    · rfl
    · obtain ⟨_, hpush⟩ := Queue.push_room a hr (by omega)
      simp only [enter, hpush]
    · omega
  · rw [if_neg (by simp [hr]), if_neg hr, Queue.push_closed a (by simpa using hr)]

/-! ## One act -/

/-- How many senders there are after an act, if there were `k`. -/
def Act.senders (k : Nat) : Act α → Nat
  | .addSender => k + 1
  | .dropSender => k - 1
  | _ => k

/-- What an act does to a queue, and what is learnt. -/
inductive Moves (q : Queue α) : Act α → Answer α → Queue α → Prop
  | keeps {e : Act α} {r : Answer α} (hk : ∀ k, e.senders k = k) (hd : e ≠ .dropReceiver)
    (ha : ∀ a, r ≠ .accepted a) (hr : ∀ a, r ≠ .received (.frame a)) : Moves q e r q
  | accepts {e : Act α} {a : α} (hk : ∀ k, e.senders k = k) (hd : e ≠ .dropReceiver) (hr : q.receiving = true)
    (hl : q.waiting.length < q.capacity) : Moves q e (.accepted a) (q.push a).2
  | gives {a : α} {rest : List α} (hr : q.receiving = true) (hw : q.waiting = a :: rest) :
    Moves q .receive (.received (.frame a)) q.pop.2
  | addSender : Moves q .addSender .done q.addSender
  | dropSender : Moves q .dropSender .done q.dropSender
  | dropReceiver : Moves q .dropReceiver .done q.dropReceiver

namespace Seated

theorem ofCapacity (n : Nat) : (ofCapacity n : Outbound α).Seated := fun _ => (Nat.zero_min _).symm

theorem leave (h : s.Seated) {i : Nat} (hi : i < s.line.length) : (s.leave i).Seated := by
  intro hr
  have hplaces := h hr
  have hlen := List.length_eraseIdx_of_lt hi
  simp only [Outbound.leave]
  omega

theorem put (h : s.Seated) (a : α) (hr : s.queue.receiving = true)
    (hl : s.queue.waiting.length + s.line.length < s.queue.capacity) : (s.put a).Seated := by
  intro _
  have hplaces := h hr
  obtain ⟨_, hpush⟩ := Queue.push_room a hr (by omega)
  simp only [Outbound.put, hpush, List.length_append, List.length_singleton]
  omega

theorem enter (h : s.Seated) {i : Nat} (a : α) (hi : i < s.line.length) (hr : s.queue.receiving = true)
    (hl : s.queue.waiting.length + i < s.queue.capacity) : (s.enter i a).Seated := by
  intro _
  have hplaces := h hr
  have hlen := List.length_eraseIdx_of_lt hi
  obtain ⟨_, hpush⟩ := Queue.push_room a hr (by omega)
  simp only [Outbound.enter, hpush, List.length_append, List.length_singleton]
  omega

/-- The line grows when there is no place for one more. -/
theorem wait (h : s.Seated) (a : α) (hl : ¬ s.queue.waiting.length + s.line.length < s.queue.capacity) :
    Seated { s with line := s.line ++ [a] } := by
  intro hr
  have hplaces := h hr
  simp only [List.length_append, List.length_singleton]
  omega

theorem receive (h : s.Seated) : s.receive.2.Seated := by
  intro hr
  cases hw : s.queue.waiting with
  | nil =>
    have hsame : s.receive.2 = s := by
      rw [Outbound.receive, Queue.pop_none hw]
      by_cases hs : s.queue.senders = 0 <;> simp [hs]
    rw [hsame] at hr ⊢
    exact h hr
  | cons a rest =>
    obtain ⟨_, hpop⟩ := Queue.pop_first hw
    have hle := s.queue.waiting_le
    rw [Outbound.receive, hpop] at hr ⊢
    have hplaces := h hr
    rw [hw, List.length_cons] at hplaces hle
    dsimp only
    omega

end Seated

/-- Nothing else can happen, and the line keeps its places. -/
theorem act_moves (h : s.Seated) {e : Act α} {r : Answer α} (he : s.act e = some (r, s')) :
    Moves s.queue e r s'.queue ∧ s'.Seated := by
  cases e with
  | trySend a =>
    simp only [act] at he
    split_ifs at he with hs
    rw [trySend_eq h, Option.some.injEq] at he
    split_ifs at he with hr
    · cases he
      exact ⟨.accepts (fun _ => rfl) nofun hr.1 (by omega), h.put a hr.1 hr.2⟩
    · cases he
      exact ⟨.keeps (fun _ => rfl) nofun nofun nofun, h⟩
  | send a =>
    simp only [act] at he
    split_ifs at he with hs
    rw [send_eq h, Option.some.injEq] at he
    split_ifs at he with hr hl
    · cases he
      exact ⟨.accepts (fun _ => rfl) nofun hr (by omega), h.put a hr hl⟩
    · cases he
      exact ⟨.keeps (fun _ => rfl) nofun nofun nofun, h.wait a hl⟩
    · cases he
      exact ⟨.keeps (fun _ => rfl) nofun nofun nofun, h⟩
  | resume i =>
    simp only [act] at he
    cases hi : s.line[i]? with
    | none => simp [resume, hi] at he
    | some a =>
      have hlen := (List.getElem?_eq_some_iff.1 hi).1
      rw [resume_eq h hi, Option.some.injEq] at he
      split_ifs at he with hr hl
      · cases he
        exact ⟨.accepts (fun _ => rfl) nofun hr (by omega), h.enter a hlen hr hl⟩
      · cases he
        exact ⟨.keeps (fun _ => rfl) nofun nofun nofun, h⟩
      · cases he
        exact ⟨.keeps (fun _ => rfl) nofun nofun nofun, h.leave hlen⟩
  | giveUp i =>
    simp only [act] at he
    split_ifs at he with hlen
    cases he
    exact ⟨.keeps (fun _ => rfl) nofun nofun nofun, h.leave hlen⟩
  | addSender =>
    simp only [act] at he
    split_ifs at he
    cases he
    exact ⟨.addSender, h⟩
  | dropSender =>
    simp only [act] at he
    split_ifs at he
    cases he
    exact ⟨.dropSender, h⟩
  | receive =>
    simp only [act] at he
    split_ifs at he with hr
    have hseated := h.receive
    cases hw : s.queue.waiting with
    | nil =>
      rw [receive, Queue.pop_none hw, Option.some.injEq] at he
      split_ifs at he with hs
      all_goals
        cases he
        exact ⟨.keeps (fun _ => rfl) nofun nofun nofun, h⟩
    | cons a rest =>
      obtain ⟨_, hpop⟩ := Queue.pop_first hw
      have hmoves := Moves.gives hr hw
      rw [hpop] at hmoves
      rw [receive, hpop] at he hseated
      cases he
      exact ⟨hmoves, hseated⟩
  | dropReceiver =>
    simp only [act] at he
    split_ifs at he with hr
    cases he
    exact ⟨.dropReceiver, nofun⟩

/-! ## Many acts -/

/-- The frames that were accepted, in the order in which they were. -/
def accepted (rs : List (Answer α)) : List α :=
  rs.filterMap fun
    | .accepted a => some a
    | _ => none

/-- The frames that were received, in the order in which they were. -/
def received (rs : List (Answer α)) : List α :=
  rs.filterMap fun
    | .received (.frame a) => some a
    | _ => none

/-- How many senders there are, when there was one. -/
def sendersAfter (es : List (Act α)) : Nat := es.foldl Act.senders 1

/-- Whether there still is a receiver. -/
def receiverAfter (es : List (Act α)) : Bool :=
  es.all fun
    | .dropReceiver => false
    | _ => true

/-- A stream that was made for `n` frames is as the acts and their answers say. -/
structure Follows (n : Nat) (es : List (Act α)) (rs : List (Answer α)) (s : Outbound α) : Prop where
  seated : s.Seated
  capacity : s.queue.capacity = n
  senders : s.queue.senders = sendersAfter es
  receiving : s.queue.receiving = receiverAfter es
  order : received rs <+: accepted rs
  waiting : s.queue.receiving = true → accepted rs = received rs ++ s.queue.waiting

theorem follows_start (n : Nat) : Follows n [] [] (ofCapacity n : Outbound α) :=
  ⟨.ofCapacity n, rfl, rfl, rfl, List.prefix_rfl, fun _ => rfl⟩

namespace Follows

variable {es es' : List (Act α)} {rs rs' : List (Answer α)} {e : Act α} {r : Answer α}

theorem accepted_snoc (rs : List (Answer α)) (r : Answer α) : accepted (rs ++ [r]) = accepted rs ++ accepted [r] :=
  List.filterMap_append

theorem received_snoc (rs : List (Answer α)) (r : Answer α) : received (rs ++ [r]) = received rs ++ received [r] :=
  List.filterMap_append

theorem sendersAfter_snoc (es : List (Act α)) (e : Act α) : sendersAfter (es ++ [e]) = e.senders (sendersAfter es) := by
  simp [sendersAfter]

theorem receiverAfter_snoc (es : List (Act α)) (e : Act α) :
    receiverAfter (es ++ [e]) = (receiverAfter es && receiverAfter [e]) := List.all_append

theorem accepted_eq_nil (h : ∀ a, r ≠ .accepted a) : accepted [r] = [] := by
  cases r with
  | accepted a => exact absurd rfl (h a)
  | _ => rfl

theorem received_eq_nil (h : ∀ a, r ≠ .received (.frame a)) : received [r] = [] := by
  cases r with
  | received x =>
    cases x with
    | frame a => exact absurd rfl (h a)
    | _ => rfl
  | _ => rfl

theorem receiverAfter_of_ne (h : e ≠ .dropReceiver) : receiverAfter [e] = true := by
  cases e with
  | dropReceiver => exact absurd rfl h
  | _ => rfl

/-- One more act that leaves the receiver: the frames that waited, and one that is accepted behind them, wait on, but
for one that is received. -/
theorem stays (h : Follows n es rs s) (hd : e ≠ .dropReceiver) (hs : s'.Seated)
    (hcapacity : s'.queue.capacity = s.queue.capacity) (hsenders : s'.queue.senders = e.senders s.queue.senders)
    (hreceiving : s'.queue.receiving = s.queue.receiving)
    (hwaiting : s.queue.waiting ++ accepted [r] = received [r] ++ s'.queue.waiting)
    (hgone : s.queue.receiving = false → received [r] = []) : Follows n (es ++ [e]) (rs ++ [r]) s' := by
  refine ⟨hs, hcapacity.trans h.capacity, ?_, ?_, ?_, fun hr => ?_⟩
  · rw [hsenders, h.senders, sendersAfter_snoc]
  · rw [hreceiving, h.receiving, receiverAfter_snoc, receiverAfter_of_ne hd, Bool.and_true]
  · rw [accepted_snoc, received_snoc]
    cases hr : s.queue.receiving with
    | true =>
      rw [h.waiting hr, List.append_assoc, hwaiting, ← List.append_assoc]
      exact List.prefix_append _ _
    | false =>
      rw [hgone hr, List.append_nil]
      exact h.order.trans (List.prefix_append _ _)
  · rw [accepted_snoc, received_snoc, h.waiting (hreceiving ▸ hr), List.append_assoc, hwaiting, List.append_assoc]

/-- One more act. -/
theorem snoc (h : Follows n es rs s) (he : s.act e = some (r, s')) : Follows n (es ++ [e]) (rs ++ [r]) s' := by
  obtain ⟨hmoves, hseated⟩ := act_moves h.seated he
  generalize hq : s'.queue = q at hmoves
  cases hmoves with
  | keeps hk hd ha hr =>
    refine h.stays hd hseated (by rw [hq]) (by rw [hq, hk]) (by rw [hq]) ?_ fun _ => received_eq_nil hr
    rw [hq, accepted_eq_nil ha, received_eq_nil hr, List.append_nil, List.nil_append]
  | @accepts _ a hk hd hr hl =>
    obtain ⟨_, hpush⟩ := Queue.push_room a hr hl
    rw [hpush] at hq
    refine h.stays hd hseated (by rw [hq]) (by rw [hq, hk]) (by rw [hq]) ?_ fun _ => rfl
    rw [hq]
    rfl
  | gives hr hw =>
    obtain ⟨_, hpop⟩ := Queue.pop_first hw
    rw [hpop] at hq
    refine h.stays nofun hseated (by rw [hq]) (by rw [hq]; rfl) (by rw [hq]) ?_ fun hgone => ?_
    · rw [hq, hw]
      exact List.append_nil _
    · rw [hr] at hgone
      cases hgone
  | addSender =>
    exact h.stays nofun hseated (hq ▸ rfl) (hq ▸ rfl) (hq ▸ rfl) (hq ▸ List.append_nil _) fun _ => rfl
  | dropSender =>
    exact h.stays nofun hseated (hq ▸ rfl) (hq ▸ rfl) (hq ▸ rfl) (hq ▸ List.append_nil _) fun _ => rfl
  | dropReceiver =>
    refine ⟨hseated, ?_, ?_, ?_, ?_, fun hr => ?_⟩
    · rw [hq]
      exact h.capacity
    · rw [hq, sendersAfter_snoc]
      exact h.senders
    · rw [hq, receiverAfter_snoc]
      exact (Bool.and_false _).symm
    · rw [accepted_snoc, received_snoc]
      show received rs ++ [] <+: accepted rs ++ []
      rw [List.append_nil, List.append_nil]
      exact h.order
    · rw [hq] at hr
      cases hr

/-- Any number of acts. -/
theorem append (h : Follows n es rs s) (hrun : s.run es' = some (rs', s')) :
    Follows n (es ++ es') (rs ++ rs') s' := by
  induction es' generalizing es rs s rs' with
  | nil =>
    cases hrun
    simpa using h
  | cons e es' ih =>
    simp only [run, Option.bind_eq_bind, Option.bind_eq_some_iff, Option.some.injEq, Prod.mk.injEq] at hrun
    obtain ⟨⟨r, t⟩, he, ⟨rs', u⟩, hrun, rfl, rfl⟩ := hrun
    rw [List.append_cons es, List.append_cons rs]
    exact ih (h.snoc he) hrun

/-- What the receiver finds, by what was accepted and received. -/
theorem answer_receive (h : Follows n es rs s)
    (hr : receiverAfter es = true) :
    s.answer? .receive = some (.received (match (accepted rs).drop (received rs).length with
      | a :: _ => .frame a
      | [] => if sendersAfter es = 0 then .ended else .pending)) := by
  rw [← h.receiving] at hr
  rw [h.waiting hr, List.drop_left, answer?, act, if_pos hr, Option.map_some, receive]
  cases hw : s.queue.waiting with
  | nil =>
    rw [Queue.pop_none hw, ← h.senders]
    by_cases hs : s.queue.senders = 0 <;> simp [hs]
  | cons a rest =>
    obtain ⟨_, hpop⟩ := Queue.pop_first hw
    rw [hpop]

end Follows

theorem follows_run {es : List (Act α)} {rs : List (Answer α)} (h : (ofCapacity n).run es = some (rs, s)) :
    Follows n es rs s := (follows_start n).append h

/-! ## What can be relied on -/

/-- What can be relied on when the acts `es` with the answers `rs` have led to `s` from an empty stream with room for `n`
frames. -/
structure Orderly (n : Nat) (es : List (Act α)) (rs : List (Answer α)) (s : Outbound α) : Prop where
  /-- The received frames are the first of the accepted ones, in their order. -/
  order : received rs <+: accepted rs
  /-- All others wait as long as there is a receiver. -/
  waiting : receiverAfter es = true → accepted rs = received rs ++ s.queue.waiting
  /-- Never more than `n` of them do. -/
  bounded : s.queue.waiting.length ≤ n
  /-- A frame that is sent without waiting is accepted iff there is a receiver and fewer than `n` frames wait, be it in
  the queue or in the line. -/
  trySend : sendersAfter es ≠ 0 → ∀ a, s.answer? (.trySend a) = some
    (if receiverAfter es ∧ s.queue.waiting.length + s.line.length < n then .accepted a else .refused .streamClosed)
  /-- A frame for which there is no room waits in the line, unless the receiver is gone: then every frame is refused. -/
  send : sendersAfter es ≠ 0 → ∀ a, s.answer? (.send a) = some
    (if receiverAfter es then if s.queue.waiting.length + s.line.length < n then .accepted a else .waits
    else .refused .streamClosed)
  /-- It gets in once there is room for it and those before it, whatever is sent meanwhile. -/
  resume : ∀ i a, s.line[i]? = some a → s.answer? (.resume i) = some
    (if receiverAfter es then if s.queue.waiting.length + i < n then .accepted a else .waits
    else .refused .streamClosed)
  /-- The receiver finds the first frame that was accepted and not received. -/
  receive : receiverAfter es = true → s.answer? .receive = some
    (.received (match (accepted rs).drop (received rs).length with
      | a :: _ => .frame a
      | [] => if sendersAfter es = 0 then .ended else .pending))
  /-- It finds the end iff there are no senders and every accepted frame was received. -/
  ended : s.answer? .receive = some (.received .ended) ↔
    receiverAfter es = true ∧ sendersAfter es = 0 ∧ received rs = accepted rs

/-- **An outbound stream is a bounded queue with a clean end**, whatever is done by however many senders. -/
theorem orderly_run (n : Nat) {es : List (Act α)} {rs : List (Answer α)} (h : (ofCapacity n).run es = some (rs, s)) :
    Orderly n es rs s := by
  have hf := follows_run h
  have hreceiving := hf.receiving
  refine ⟨hf.order, fun hr => hf.waiting (hreceiving ▸ hr), ?_, fun hs a => ?_, fun hs a => ?_, fun i a hi => ?_,
    hf.answer_receive, ?_, fun ⟨hr, hs, hall⟩ => ?_⟩
  · exact hf.capacity ▸ s.queue.waiting_le
  · rw [← hf.senders] at hs
    rw [answer?, act, if_neg hs, trySend_eq hf.seated, hreceiving, hf.capacity, Option.map_some]
    split_ifs <;> rfl
  · rw [← hf.senders] at hs
    rw [answer?, act, if_neg hs, send_eq hf.seated, hreceiving, hf.capacity, Option.map_some]
    split_ifs <;> rfl
  · rw [answer?, act, resume_eq hf.seated hi, hreceiving, hf.capacity, Option.map_some]
    split_ifs <;> rfl
  · intro hended
    have hr : receiverAfter es = true := by
      rw [← hreceiving]
      by_contra hr
      simp [answer?, act, hr] at hended
    rw [hf.answer_receive hr, Option.some.injEq, Answer.received.injEq] at hended
    split at hended
    · cases hended
    · rename_i hall
      split_ifs at hended with hs
      exact ⟨hr, hs, hf.order.eq_of_length_le (List.drop_eq_nil_iff.1 hall)⟩
  · rw [hf.answer_receive hr, hall, List.drop_length, if_pos hs]

/-- Two senders and room for one frame: the second waits until the first frame is received, and nobody gets in before
it. -/
theorem orderly_run_two_senders :
    ∃ rs s, (ofCapacity 1 : Outbound Nat).run
        [.trySend 1, .addSender, .send 2, .receive, .trySend 3, .resume 0, .receive, .dropSender, .dropSender] =
        some (rs, s) ∧
      accepted rs = [1, 2] ∧ received rs = [1, 2] ∧ rs[4]? = some (.refused .streamClosed) ∧
      s.answer? .receive = some (.received .ended) := by
  obtain ⟨rs, s, hrun, haccepted, hreceived, hrefused⟩ : ∃ rs s, (ofCapacity 1 : Outbound Nat).run
      [.trySend 1, .addSender, .send 2, .receive, .trySend 3, .resume 0, .receive, .dropSender, .dropSender] =
      some (rs, s) ∧ accepted rs = [1, 2] ∧ received rs = [1, 2] ∧ rs[4]? = some (.refused .streamClosed) :=
    ⟨_, _, rfl, rfl, rfl, rfl⟩
  exact ⟨rs, s, hrun, haccepted, hreceived, hrefused,
    (orderly_run 1 hrun).ended.2 ⟨rfl, rfl, hreceived.trans haccepted.symm⟩⟩

end Outbound

end Custodian
