import Custodian.Upload.Call
import Mathlib.Tactic

/-!
# What a backup call carries

* `CallPlan.reads` : what the other side of a call reads of a row of frames;
* `BackupCall.Carries` : a call and the frames sent over it, whatever pace the other side goes at; `Carries.read`,
  `Carries.leave`, `Carries.turn`, `Carries.readOn` : the other side changes nothing about that;
* `Carries.send` : a frame that is sent joins them, or the call has ended by itself; `Carries.finish` : in the end the
  other side has as many of them as it wants;
* `Later` : how the other side may go on; `GivenUp` : a call that its sender has given up, and whose other side never
  sees the end of the frames, however it goes on; `Carries.abandon` : so a sender leaves it that goes before the end.
-/

namespace Custodian

set_option autoImplicit false

/-- What the other side of a call reads of a row of frames. -/
def CallPlan.reads {α : Type} (plan : CallPlan) (xs : List α) : List α :=
  match plan.stopAfter with
  | none => xs
  | some n => xs.take n

theorem CallPlan.reads_prefix {α : Type} (plan : CallPlan) (xs : List α) : plan.reads xs <+: xs := by
  unfold reads
  split
  · exact List.prefix_rfl
  · exact List.take_prefix _ xs

namespace BackupCall

variable {c c' : BackupCall} {xs : List BackupFrame} {f : BackupFrame}

/-- The frames `xs` have been accepted by a call that was not cancelled, and it has not seen the end of them. As long as
the other side reads, it has some of them and the others wait for it; once it has stopped it has those it wanted. -/
structure Carries (c : BackupCall) (xs : List BackupFrame) : Prop where
  accepted : c.accepted.toList = xs
  uncancelled : c.cancelled = false
  unseen : c.sawEnd = false
  room : 0 < c.queue.capacity
  sender : c.queue.senders ≤ 1
  reading : c.ended = false → c.queue.receiving = true ∧ c.received.toList ++ c.queue.waiting = xs ∧
    ∀ n, c.plan.stopAfter = some n → c.received.size ≤ n
  stopped : c.ended = true → c.queue.receiving = false ∧
    ∃ n, c.plan.stopAfter = some n ∧ n ≤ xs.length ∧ c.received.toList = xs.take n

theorem carries_start (plan : CallPlan) : (start plan).Carries [] :=
  ⟨rfl, rfl, rfl, Nat.zero_lt_succ _, Nat.le_refl 1, fun _ => ⟨rfl, rfl, fun _ _ => Nat.zero_le _⟩, nofun⟩

theorem Carries.idle_eq (h : c.Carries xs) : c.idle = c.ended := by
  rw [idle, h.uncancelled, Bool.or_false]

/-! ## The other side -/

theorem plan_read (n : Nat) (c : BackupCall) : (c.read n).plan = c.plan := by
  unfold read
  split_ifs <;> rfl

theorem plan_leave (c : BackupCall) : c.leave.plan = c.plan := by
  unfold leave
  split
  · rfl
  · split_ifs <;> rfl

theorem plan_readOn (c : BackupCall) : c.readOn.plan = c.plan := (plan_leave _).trans (plan_read _ c)

theorem plan_turn (c : BackupCall) : c.turn.plan = c.plan := by
  unfold turn
  split
  · rfl
  · dsimp only
    split_ifs
    · exact (plan_leave _).trans (plan_read _ _)
    · exact plan_read _ _

theorem plan_seeEnd (c : BackupCall) : c.seeEnd.plan = c.plan := by
  unfold seeEnd
  split_ifs
  · rfl
  · split <;> rfl

theorem received_leave (c : BackupCall) : c.leave.received = c.received := by
  unfold leave
  split
  · rfl
  · split_ifs <;> rfl

theorem read_of_idle (h : c.idle = true) (n : Nat) : c.read n = c := by
  rw [read, if_pos h]

theorem read_of_reading (h : c.idle = false) (n : Nat) : c.read n = { c with
    queue := (c.queue.take (c.wanted n)).2
    received := c.received ++ (c.queue.waiting.take (c.wanted n)).toArray } := by
  rw [read, if_neg (by simp [h])]
  rfl

theorem leave_of_none (h : c.plan.stopAfter = none) : c.leave = c := by
  unfold leave
  rw [h]

theorem leave_of_some {n : Nat} (h : c.plan.stopAfter = some n) :
    c.leave = if c.idle = true ∨ c.received.size < n then c else
      { c with queue := c.queue.dropReceiver, ended := true } := by
  unfold leave
  rw [h]

theorem leave_of_idle (h : c.idle = true) : c.leave = c := by
  unfold leave
  split
  · rfl
  · rw [if_pos (.inl h)]

theorem readOn_of_idle (h : c.idle = true) : c.readOn = c := by
  rw [readOn, read_of_idle h, leave_of_idle h]

theorem seeEnd_of_idle (h : c.idle = true) : c.seeEnd = c := by
  rw [seeEnd, if_pos h]

/-- A call whose sender is gone and in which nothing waits is complete for its other side. -/
theorem seeEnd_of_gone (h : c.idle = false) (hw : c.queue.waiting = []) (hs : c.queue.senders = 0) :
    c.seeEnd = { c with ended := true, sawEnd := true } := by
  rw [seeEnd, if_neg (by simp [h]), Queue.pop_none hw, if_pos hs]

theorem Carries.read (h : c.Carries xs) (n : Nat) : (c.read n).Carries xs := by
  cases he : c.ended with
  | true =>
    rw [read_of_idle (h.idle_eq.trans he)]
    exact h
  | false =>
    obtain ⟨hr, hx, hn⟩ := h.reading he
    rw [read_of_reading (h.idle_eq.trans he)]
    refine ⟨h.accepted, h.uncancelled, h.unseen, h.room, h.sender, fun _ => ⟨hr, ?_, fun m hm => ?_⟩, fun he' => ?_⟩
    · simpa [Queue.take] using hx
    · -- the other side takes no more than it wants
      have hw : c.wanted n ≤ m - c.received.size := by
        rw [wanted, show c.plan.stopAfter = some m from hm]
        exact Nat.min_le_right _ _
      have hle := hn m hm
      simp only [Array.size_append, List.size_toArray, List.length_take]
      omega
    · simp [he] at he'

theorem Carries.leave (h : c.Carries xs) : c.leave.Carries xs := by
  cases hs : c.plan.stopAfter with
  | none => rwa [leave_of_none hs]
  | some n =>
    rw [leave_of_some hs]
    split_ifs with hstay
    · exact h
    · rw [not_or, Nat.not_lt, h.idle_eq] at hstay
      obtain ⟨-, hx, hn⟩ := h.reading (by simpa using hstay.1)
      -- it has just as many frames as it wants
      have hsize : c.received.toList.length = n := Nat.le_antisymm (hn n hs) hstay.2
      refine ⟨h.accepted, h.uncancelled, h.unseen, h.room, h.sender, nofun, fun _ => ⟨rfl, n, hs, ?_, ?_⟩⟩
      · simp [← hx, ← hsize]
      · rw [← hx, ← hsize, List.take_left]

theorem Carries.turn (h : c.Carries xs) : c.turn.Carries xs := by
  unfold BackupCall.turn
  split
  · exact h
  · rename_i t ts _
    have hturns : BackupCall.Carries { c with turns := ts } xs := ⟨h.1, h.2, h.3, h.4, h.5, h.6, h.7⟩
    dsimp only
    split_ifs
    · exact (hturns.read t.reads).leave
    · exact hturns.read t.reads

theorem Carries.readOn (h : c.Carries xs) : c.readOn.Carries xs := (h.read _).leave

/-- Reading on brings the other side up to what it wants. -/
theorem Carries.received_readOn (h : c.Carries xs) : c.readOn.received.toList = c.plan.reads xs := by
  rw [BackupCall.readOn, received_leave]
  cases he : c.ended with
  | true =>
    obtain ⟨-, n, hs, -, hx⟩ := h.stopped he
    rw [read_of_idle (h.idle_eq.trans he), hx, CallPlan.reads, hs]
  | false =>
    obtain ⟨-, hx, hn⟩ := h.reading he
    rw [read_of_reading (h.idle_eq.trans he)]
    subst hx
    cases hs : c.plan.stopAfter with
    | none => simp [BackupCall.wanted, CallPlan.reads, hs]
    | some n =>
      have hle : c.received.toList.length ≤ n := hn n hs
      simp only [BackupCall.wanted, CallPlan.reads, hs]
      rw [List.take_append, List.take_of_length_le hle]
      simp [List.take_eq_take_iff, Nat.min_comm]

/-- A call that reads on and goes on has nothing that waits. -/
theorem waiting_readOn (h : c.readOn.idle = false) : c.readOn.queue.waiting = [] := by
  unfold readOn at h ⊢
  generalize hc : c.read c.queue.waiting.length = d at h
  have he : c.idle = false := by
    by_contra hne
    rw [read_of_idle (by simpa using hne)] at hc
    subst hc
    rw [leave_of_idle (by simpa using hne)] at h
    exact hne h
  rw [read_of_reading he] at hc
  have hd : d.idle = false := by
    rw [← hc]
    exact he
  unfold leave at h ⊢
  cases hs : d.plan.stopAfter with
  | none =>
    have hs' : c.plan.stopAfter = none := by rwa [← hc] at hs
    simp [← hc, wanted, hs', Queue.take]
  | some n =>
    have hs' : c.plan.stopAfter = some n := by rwa [← hc] at hs
    simp only [hs] at h ⊢
    split_ifs at h ⊢ with hstay
    · rcases hstay with hstay | hstay
      · rw [hd] at hstay
        cases hstay
      · -- it wants more than it has, so that it has taken all
        rw [← hc] at hstay ⊢
        simp only [wanted, hs', Queue.take, Array.size_append, List.size_toArray, List.length_take] at hstay ⊢
        rw [List.drop_eq_nil_iff]
        omega
    · simp [idle] at h

/-! ## Sending -/

theorem plan_push (c : BackupCall) (f : BackupFrame) : (c.push f).2.plan = c.plan := by
  unfold push
  split <;> rfl

theorem plan_send (c : BackupCall) (f : BackupFrame) : (c.send f).2.plan = c.plan := by
  have hturn := plan_turn c
  unfold send
  split
  · rename_i d hd
    rw [← hturn, ← plan_push c.turn f, hd]
  · rename_i d hd
    rw [← hturn, ← plan_push c.turn f, hd]
  · rename_i d hd
    have hfull := plan_push c.turn f
    rw [hd] at hfull
    have hread := plan_push d.readOn f
    rw [plan_readOn] at hread
    split <;> rename_i hq <;> rw [hq] at hread <;> exact hread.trans (hfull.trans hturn)

/-- A frame joins those that were sent, or the call has ended, or there is no room. -/
theorem Carries.push (h : c.Carries xs) (f : BackupFrame) :
    (∃ d, c.push f = (.accepted, d) ∧ d.Carries (xs ++ [f])) ∨ (c.push f = (.closed, c) ∧ c.ended = true) ∨
      (c.push f = (.full, c) ∧ c.ended = false ∧ c.queue.waiting ≠ []) := by
  have hreceiving : c.queue.receiving = !c.ended := by
    cases he : c.ended with
    | false => exact (h.reading he).1
    | true => exact (h.stopped he).1
  have hcapacity := Queue.capacity_push c.queue f
  have hsame := Queue.receiving_push c.queue f
  have hsender := Queue.senders_push c.queue f
  unfold BackupCall.push
  rcases hq : c.queue.push f with ⟨_ | _ | _, q⟩
  · obtain ⟨hr, hw⟩ := Queue.push_accepted hq
    rw [hq] at hcapacity hsame hsender
    have he : c.ended = false := by simpa [hr] using hreceiving
    obtain ⟨-, hx, hn⟩ := h.reading he
    refine .inl ⟨_, rfl, by simp [h.accepted], h.uncancelled, h.unseen, hcapacity ▸ h.room, hsender.trans_le h.sender,
      fun _ => ⟨hsame.trans hr, ?_, hn⟩, ?_⟩
    · simp [hw, ← hx]
    · intro he'
      simp [he] at he'
  · have hr := Queue.push_waits hq
    have hfull := Queue.capacity_le_of_push hq
    refine .inr (.inr ⟨rfl, by simpa [hr] using hreceiving, fun hw => ?_⟩)
    rw [hw] at hfull
    exact absurd h.room (Nat.not_lt.2 hfull)
  · obtain ⟨hr, -⟩ := Queue.push_refused hq
    exact .inr (.inl ⟨rfl, by simpa [hr] using hreceiving⟩)

/-- A frame that is sent joins those that were sent before, or it turns out that the call has ended by itself. -/
theorem Carries.send (h : c.Carries xs) (f : BackupFrame) :
    (∃ d, c.send f = (.ok (), d) ∧ d.Carries (xs ++ [f])) ∨
      ∃ d, c.send f = (.error .streamClosed, d) ∧ d.Carries xs ∧ d.ended = true := by
  unfold BackupCall.send
  rcases h.turn.push f with ⟨d, hp, hd⟩ | ⟨hp, he⟩ | ⟨hp, -⟩
  · exact .inl ⟨d, by rw [hp], hd⟩
  · exact .inr ⟨c.turn, by rw [hp], h.turn, he⟩
  · rw [hp]
    dsimp only
    rcases h.turn.readOn.push f with ⟨d, hp, hd⟩ | ⟨hp, he⟩ | ⟨-, he, hw⟩
    · exact .inl ⟨d, by rw [hp], hd⟩
    · exact .inr ⟨c.turn.readOn, by rw [hp], h.turn.readOn, he⟩
    · exact absurd (waiting_readOn (h.turn.readOn.idle_eq.trans he)) hw

theorem Carries.send_ok (h : c.Carries xs) (hs : c.send f = (.ok (), c')) : c'.Carries (xs ++ [f]) := by
  rcases h.send f with ⟨d, hd, hc⟩ | ⟨d, hd, -⟩
  · rw [hd] at hs
    cases hs
    exact hc
  · rw [hd] at hs
    cases hs

theorem send_error {e : Error} (h : c.send f = (.error e, c')) : e = .streamClosed := by
  unfold send at h
  split at h
  · cases h
  · cases h
    rfl
  · split at h <;> cases h
    rfl

/-! ## The end -/

theorem idle_dropSender (c : BackupCall) : c.dropSender.idle = c.idle := rfl

theorem read_dropSender (n : Nat) (c : BackupCall) : c.dropSender.read n = (c.read n).dropSender := by
  unfold read
  rw [idle_dropSender]
  split_ifs <;> rfl

theorem leave_dropSender (c : BackupCall) : c.dropSender.leave = c.leave.dropSender := by
  cases hs : c.plan.stopAfter with
  | none =>
    rw [leave_of_none hs]
    exact leave_of_none hs
  | some n =>
    have hleave : c.dropSender.leave = if c.idle = true ∨ c.received.size < n then c.dropSender else
      { c.dropSender with queue := c.queue.dropSender.dropReceiver, ended := true } := leave_of_some hs
    rw [hleave, leave_of_some hs, apply_ite dropSender]
    rfl

/-- What the other side reads does not depend on whether the sender is there. -/
theorem readOn_dropSender (c : BackupCall) : c.dropSender.readOn = c.readOn.dropSender := by
  rw [readOn, readOn, ← leave_dropSender, ← read_dropSender]
  rfl

/-- The end of a call. -/
theorem finish_eq (c : BackupCall) : c.finish = (c.plan.verdict, c.turn.readOn.dropSender.seeEnd) := by
  rw [finish, readOn_dropSender, plan_seeEnd]
  show (c.turn.readOn.plan.verdict, _) = _
  rw [plan_readOn, plan_turn]

theorem Carries.dropSender (h : c.Carries xs) : c.dropSender.Carries xs :=
  ⟨h.accepted, h.uncancelled, h.unseen, h.room, (Nat.sub_le _ _).trans h.sender, h.reading, h.stopped⟩

theorem ended_turn (h : c.Carries xs) (he : c.ended = true) : c.turn.ended = true := by
  unfold turn
  split
  · exact he
  · rename_i t ts _
    have hturns : ({ c with turns := ts } : BackupCall).idle = true := h.idle_eq.trans he
    dsimp only
    rw [read_of_idle hturns, leave_of_idle hturns, ite_self]
    exact he

/-- A call that nobody cancels takes the frames for complete once its sender is gone, unless it ends before. -/
theorem Carries.seeEnd_of_gone (h : c.Carries xs) (he : c.readOn.ended = false) :
    c.readOn.dropSender.seeEnd = { c.readOn.dropSender with ended := true, sawEnd := true } := by
  have hidle : c.readOn.dropSender.idle = false := h.readOn.idle_eq.trans he
  have hwaiting : c.readOn.dropSender.queue.waiting = [] := waiting_readOn hidle
  have hgone : c.readOn.dropSender.queue.senders = 0 := Nat.sub_eq_zero_of_le h.readOn.sender
  exact BackupCall.seeEnd_of_gone hidle hwaiting hgone

/-- A call that has ended by itself goes on to carry what it took, without seeing the end of it. -/
theorem Carries.finish_of_ended (h : c.Carries xs) (he : c.ended = true) :
    c.finish.2.Carries xs ∧ c.finish.2.ended = true := by
  have hturn := ended_turn h he
  have hidle : c.turn.idle = true := h.turn.idle_eq.trans hturn
  have hfinish : c.finish.2 = c.turn.dropSender := by
    rw [finish_eq, readOn_of_idle hidle]
    exact seeEnd_of_idle hidle
  rw [hfinish]
  exact ⟨h.turn.dropSender, hturn⟩

theorem plan_finish (c : BackupCall) : c.finish.2.plan = c.plan := by
  rw [finish_eq, plan_seeEnd]
  exact (plan_readOn _).trans (plan_turn c)

theorem answer_finish (c : BackupCall) : c.finish.1 = c.plan.verdict := by
  rw [finish_eq]

/-- Whoever waits for the answer of a call does not wait for ever: the other side has read as much as it wants, and if
it has not ended the call before, it does so when it sees the end of the frames. -/
theorem Carries.finish (h : c.Carries xs) :
    c.finish.2.accepted.toList = xs ∧ c.finish.2.received.toList = c.plan.reads xs ∧ c.finish.2.ended = true := by
  have hread := h.turn.readOn
  have hx := h.turn.received_readOn
  rw [plan_turn] at hx
  rw [finish_eq]
  cases he : c.turn.readOn.ended with
  | true =>
    have hidle : c.turn.readOn.dropSender.idle = true := hread.idle_eq.trans he
    rw [seeEnd_of_idle hidle]
    exact ⟨hread.accepted, hx, he⟩
  | false =>
    rw [h.turn.seeEnd_of_gone he]
    exact ⟨hread.accepted, hx, rfl⟩

/-! ## Giving up -/

/-- What the other side of a call can do, at whatever pace. -/
inductive Later (c : BackupCall) : BackupCall → Prop
  | now : Later c c
  | read {d : BackupCall} (h : Later c d) (n : Nat) : Later c (d.read n)
  | leave {d : BackupCall} (h : Later c d) : Later c d.leave
  | seeEnd {d : BackupCall} (h : Later c d) : Later c d.seeEnd

/-- Nothing happens to a call that is over. -/
theorem Later.eq_of_idle {d : BackupCall} (h : c.Later d) (hc : c.idle = true) : d = c := by
  induction h with
  | now => rfl
  | read h n ih => rw [ih, read_of_idle hc]
  | leave h ih => rw [ih, leave_of_idle hc]
  | seeEnd h ih => rw [ih, seeEnd_of_idle hc]

/-- A call has ended by itself, with as many of the frames it took as it wanted, and has not seen the end of them. -/
structure EndedEarly (c : BackupCall) : Prop where
  ended : c.ended = true
  unseen : c.sawEnd = false
  wanted : ∃ n, c.plan.stopAfter = some n ∧ n ≤ c.accepted.toList.length ∧
    c.received.toList = c.accepted.toList.take n

/-- A call is given up: it has been cancelled, and so yields nothing, unless it has ended by itself before. Its sender
is gone, and whatever the other side does, it never sees the end of the frames. -/
structure GivenUp (c : BackupCall) : Prop where
  stopped : c.cancelled = true ∧ c.result = none ∨ c.EndedEarly
  gone : c.queue.senders = 0
  unseen : ∀ d, c.Later d → d.sawEnd = false

/-- A call at work is not given up. -/
example (plan : CallPlan) : ¬(start plan).GivenUp := fun h => nomatch h.gone

theorem Carries.endedEarly (h : c.Carries xs) (he : c.ended = true) : c.EndedEarly := by
  obtain ⟨-, n, hs, hn, hx⟩ := h.stopped he
  rw [← h.accepted] at hn hx
  exact ⟨he, h.unseen, n, hs, hn, hx⟩

/-- What the other side has received is a beginning of what was accepted. -/
theorem Carries.received_prefix (h : c.Carries xs) : c.received.toList <+: c.accepted.toList := by
  rw [h.accepted]
  cases he : c.ended with
  | false =>
    obtain ⟨-, hx, -⟩ := h.reading he
    exact ⟨_, hx⟩
  | true =>
    obtain ⟨-, n, -, -, hx⟩ := h.stopped he
    rw [hx]
    exact List.take_prefix n xs

theorem cancel_of_ended (h : c.ended = true) : c.cancel = c := by
  rw [cancel, if_pos h]

theorem cancel_of_going (h : c.ended = false) :
    c.cancel = { c with cancelled := true, queue := c.queue.dropReceiver } := by
  rw [cancel, if_neg (by simp [h])]

theorem idle_cancel (c : BackupCall) : c.cancel.idle = true := by
  cases h : c.ended with
  | true => rw [cancel_of_ended h, idle, h, Bool.true_or]
  | false =>
    rw [cancel_of_going h]
    exact Bool.or_true _

/-- To cancel a call leaves what it was for, what went over it and whether its sender is there. -/
theorem cancel_keeps (c : BackupCall) :
    c.cancel.plan = c.plan ∧ c.cancel.accepted = c.accepted ∧ c.cancel.received = c.received ∧
      c.cancel.sawEnd = c.sawEnd ∧ c.cancel.queue.senders = c.queue.senders := by
  unfold cancel
  split_ifs <;> exact ⟨rfl, rfl, rfl, rfl, rfl⟩

/-- The other side goes on when the sender is gone, but not that of a call that was cancelled before. -/
theorem abandon_eq (c : BackupCall) : c.abandon = c.cancel.dropSender := by
  have hidle := idle_cancel c
  rw [abandon, readOn_dropSender, readOn_of_idle hidle]
  exact seeEnd_of_idle hidle

/-- A sender that goes before the end leaves a call that is given up. -/
theorem Carries.abandon (h : c.Carries xs) : c.abandon.GivenUp ∧ c.abandon.plan = c.plan ∧
    c.abandon.accepted.toList = xs ∧ c.abandon.received.toList <+: c.abandon.accepted.toList := by
  obtain ⟨hplan, haccepted, hreceived, hsaw, hsenders⟩ := cancel_keeps c
  rw [abandon_eq]
  refine ⟨⟨?_, ?_, fun d hd => ?_⟩, hplan, (congrArg Array.toList haccepted).trans h.accepted, ?_⟩
  · cases he : c.ended with
    | true =>
      rw [cancel_of_ended he]
      exact .inr (h.dropSender.endedEarly he)
    | false =>
      rw [cancel_of_going he]
      exact .inl ⟨rfl, if_neg (Bool.eq_false_iff.1 he)⟩
  · show c.cancel.queue.senders - 1 = 0
    rw [hsenders]
    exact Nat.sub_eq_zero_of_le h.sender
  · rw [hd.eq_of_idle (idle_cancel c)]
    exact hsaw.trans h.unseen
  · show c.cancel.received.toList <+: c.cancel.accepted.toList
    rw [hreceived, haccepted]
    exact h.received_prefix

end BackupCall

end Custodian
