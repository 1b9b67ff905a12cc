import Custodian.Error

/-!
# Bounded queues

`Queue` : frames on their way from any number of senders to one receiver. At most `capacity` of them wait; a queue is
closed for sending once the receiver is gone and at its end once the senders are.
-/

namespace Custodian

set_option autoImplicit false

/-- Frames that wait, how many senders there are, and whether there is a receiver. -/
structure Queue (α : Type) where
  capacity : Nat
  waiting : List α
  senders : Nat
  receiving : Bool
  waiting_le : waiting.length ≤ capacity

namespace Queue

variable {α : Type}

/-- The largest capacity. -/
def maxCapacity : Nat := 2305843009213693951

/-- The capacity where no other is asked for. -/
def defaultCapacity : Nat := 100

/-- An empty queue with one sender and a receiver. -/
def ofCapacity (n : Nat) : Queue α := ⟨n, [], 1, true, Nat.zero_le n⟩

/-- An empty queue, if its capacity is neither zero nor too large. -/
def create? (n : Nat) : Option (Queue α) := if 0 < n ∧ n ≤ maxCapacity then some (ofCapacity n) else none

/-- What becomes of a frame that is sent without waiting. -/
inductive Sent where
  | accepted
  | full
  | closed
deriving DecidableEq, Inhabited

/-- Puts a frame behind those that wait. -/
def push (q : Queue α) (a : α) : Sent × Queue α :=
  if q.receiving then
    if h : q.waiting.length < q.capacity then
      (.accepted, ⟨q.capacity, q.waiting ++ [a], q.senders, q.receiving, List.length_append ▸ h⟩)
    else (.full, q)
  else (.closed, q)

/-- What a receiver finds. -/
inductive Received (α : Type) where
  | frame (a : α)
  | pending
  | ended
deriving DecidableEq, Inhabited

/-- Takes the frame that has waited longest. -/
def pop (q : Queue α) : Received α × Queue α :=
  match h : q.waiting with
  | a :: rest => (.frame a, ⟨q.capacity, rest, q.senders, q.receiving, by
      have := q.waiting_le; rw [h] at this; simp at this; omega⟩)
  | [] => if q.senders = 0 then (.ended, q) else (.pending, q)

/-- Takes all frames that wait. -/
def drain (q : Queue α) : List α × Queue α := (q.waiting, { q with waiting := [], waiting_le := by simp })

/-- Takes up to `n` of the frames that wait. -/
def take (n : Nat) (q : Queue α) : List α × Queue α :=
  (q.waiting.take n, { q with
    waiting := q.waiting.drop n
    waiting_le := Nat.le_trans (by simp) q.waiting_le })

/-- One more sender. -/
def addSender (q : Queue α) : Queue α := { q with senders := q.senders + 1 }

/-- One sender less. -/
def dropSender (q : Queue α) : Queue α := { q with senders := q.senders - 1 }

/-- The receiver goes, and with it what waits. -/
def dropReceiver (q : Queue α) : Queue α := { q with waiting := [], receiving := false, waiting_le := by simp }

theorem push_closed {q : Queue α} (a : α) (h : q.receiving = false) : q.push a = (.closed, q) := by
  simp [push, h]

theorem push_room {q : Queue α} (a : α) (h : q.receiving = true) (hl : q.waiting.length < q.capacity) :
    ∃ hle, q.push a = (.accepted, ⟨q.capacity, q.waiting ++ [a], q.senders, q.receiving, hle⟩) := by
  refine ⟨?_, ?_⟩
  · rw [List.length_append]
    exact hl
  · rw [push, if_pos h, dif_pos hl]

/-- What was accepted waits behind all else, and there is a receiver. -/
theorem push_accepted {q q' : Queue α} {a : α} (h : q.push a = (.accepted, q')) :
    q.receiving = true ∧ q'.waiting = q.waiting ++ [a] := by
  unfold push at h
  split at h
  · rename_i hr
    split at h
    · cases h
      exact ⟨hr, rfl⟩
    · cases h
  · cases h

theorem push_waits {q q' : Queue α} {a : α} (h : q.push a = (.full, q')) : q.receiving = true := by
  unfold push at h
  split at h
  · assumption
  · cases h

/-- There is no room only when as many frames wait as can. -/
theorem capacity_le_of_push {q q' : Queue α} {a : α} (h : q.push a = (.full, q')) :
    q.capacity ≤ q.waiting.length := by
  unfold push at h
  split at h
  · split at h
    · cases h
    · exact Nat.not_lt.1 ‹_›
  · cases h

theorem lt_capacity_of_push {q q' : Queue α} {a : α} (h : q.push a = (.accepted, q')) :
    q.waiting.length < q.capacity := by
  unfold push at h
  split at h
  · split at h
    · assumption
    · cases h
  · cases h

/-- Only a queue without a receiver refuses, and it stays as it is. -/
theorem push_refused {q q' : Queue α} {a : α} (h : q.push a = (.closed, q')) : q.receiving = false ∧ q' = q := by
  unfold push at h
  split at h
  · split at h <;> cases h
  · rename_i hr
    cases h
    exact ⟨by simpa using hr, rfl⟩

theorem receiving_push (q : Queue α) (a : α) : (q.push a).2.receiving = q.receiving := by
  unfold push
  split
  · split <;> rfl
  · rfl

theorem capacity_push (q : Queue α) (a : α) : (q.push a).2.capacity = q.capacity := by
  unfold push
  split
  · split <;> rfl
  · rfl

theorem senders_push (q : Queue α) (a : α) : (q.push a).2.senders = q.senders := by
  unfold push
  split
  · split <;> rfl
  · rfl

/-- What waits does not depend on how many may still send. -/
theorem push_senders (q : Queue α) (n : Nat) (a : α) :
    ({ q with senders := n } : Queue α).push a = ((q.push a).1, { (q.push a).2 with senders := n }) := by
  by_cases hr : q.receiving = true <;> by_cases hl : q.waiting.length < q.capacity <;> simp [push, hr, hl]

theorem pop_senders (q : Queue α) (n : Nat) :
    ({ q with senders := n } : Queue α).pop.2 = { q.pop.2 with senders := n } := by
  obtain ⟨capacity, waiting, senders, receiving, hle⟩ := q
  cases waiting with
  | nil => by_cases hn : n = 0 <;> by_cases hs : senders = 0 <;> simp [pop, hn, hs]
  | cons a rest => rfl

theorem pop_first {q : Queue α} {a : α} {rest : List α} (h : q.waiting = a :: rest) :
    ∃ hle, q.pop = (.frame a, ⟨q.capacity, rest, q.senders, q.receiving, hle⟩) := by
  obtain ⟨capacity, waiting, senders, receiving, hle⟩ := q
  subst h
  exact ⟨Nat.le_of_succ_le hle, rfl⟩

theorem pop_none {q : Queue α} (h : q.waiting = []) : q.pop = (if q.senders = 0 then .ended else .pending, q) := by
  obtain ⟨capacity, waiting, senders, receiving, hle⟩ := q
  subst h
  by_cases hs : senders = 0 <;> simp [pop, hs]

theorem receiving_pop (q : Queue α) : q.pop.2.receiving = q.receiving := by
  unfold pop
  split
  · rfl
  · split <;> rfl

theorem senders_pop (q : Queue α) : q.pop.2.senders = q.senders := by
  unfold pop
  split
  · rfl
  · split <;> rfl

theorem waiting_pop {q : Queue α} {a : α} {rest : List α} (h : q.waiting = a :: rest) : q.pop.2.waiting = rest := by
  unfold pop
  split
  · rename_i b bs hq
    rw [hq, List.cons.injEq] at h
    exact h.2
  · rename_i hq
    rw [hq] at h
    cases h

end Queue

end Custodian
