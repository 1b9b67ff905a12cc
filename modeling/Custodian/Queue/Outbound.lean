import Custodian.Queue

/-!
# Outbound streams

`Outbound` : a queue, and the frames whose senders found no room in it and wait in line. A place that comes free is given
to the first in line that has none and kept for it: its frame goes into the queue once the sender goes on, and nobody
else gets in there before. `Outbound.run` : what senders and the receiver do, in any order.
-/

namespace Custodian

set_option autoImplicit false

/-- A queue and the frames that wait to get into it, in the order they came. -/
structure Outbound (α : Type) where
  queue : Queue α
  line : List α := []
  /-- How many of them, from the front, have been given a place. -/
  places : Nat := 0

namespace Outbound

variable {α : Type}

/-- An empty stream with one sender and a receiver. -/
def ofCapacity (n : Nat) : Outbound α := { queue := .ofCapacity n }

/-- An empty stream, if the capacity is neither zero nor too large. -/
def create? (n : Nat) : Option (Outbound α) := (Queue.create? n).map fun q => { queue := q }

/-- Something that a sender or the receiver does. -/
inductive Act (α : Type) where
  | trySend (a : α)
  /-- Begins to send; if there is no room this goes on later. -/
  | send (a : α)
  /-- The sender of frame `i` of the line goes on. -/
  | resume (i : Nat)
  /-- The sender of frame `i` of the line waits no longer. -/
  | giveUp (i : Nat)
  | addSender
  | dropSender
  | receive
  | dropReceiver
deriving DecidableEq, Inhabited

/-- What the one who did it learns. -/
inductive Answer (α : Type) where
  | accepted (a : α)
  | refused (e : Error)
  /-- There is no place for the frame yet. -/
  | waits
  | received (r : Queue.Received α)
  | done
deriving DecidableEq, Inhabited

/-- Puts a frame into the queue, unless every place there is taken or kept. -/
def offer (a : α) (s : Outbound α) : Queue.Sent × Outbound α :=
  if s.queue.receiving ∧ s.queue.capacity ≤ s.queue.waiting.length + s.places then (.full, s)
  else
    let (r, q) := s.queue.push a
    (r, { s with queue := q })

/-- Sends without waiting. A full queue is reported like one without a receiver. -/
def trySend (a : α) (s : Outbound α) : Answer α × Outbound α :=
  match s.offer a with
  | (.accepted, s) => (.accepted a, s)
  | (.full, s) | (.closed, s) => (.refused .streamClosed, s)

/-- Begins to send: a frame that finds no room waits behind all others. -/
def send (a : α) (s : Outbound α) : Answer α × Outbound α :=
  match s.offer a with
  | (.accepted, s) => (.accepted a, s)
  | (.full, s) => (.waits, { s with line := s.line ++ [a] })
  | (.closed, s) => (.refused .streamClosed, s)

/-- A frame leaves the line. If it had a place, the first that has none gets it. -/
def leave (i : Nat) (s : Outbound α) : Outbound α :=
  { s with line := s.line.eraseIdx i, places := min s.places (s.line.eraseIdx i).length }

/-- The sender of a frame in the line goes on: the frame takes its place in the queue, waits if it has none, and is
refused if the receiver is gone. -/
def resume (i : Nat) (s : Outbound α) : Option (Answer α × Outbound α) :=
  s.line[i]?.map fun a =>
    if s.queue.receiving ∧ s.places ≤ i then (.waits, s)
    else
      match s.queue.push a with
      | (.accepted, q) => (.accepted a, { queue := q, line := s.line.eraseIdx i, places := s.places - 1 })
      | (.full, _) => (.waits, s)
      | (.closed, _) => (.refused .streamClosed, s.leave i)

/-- The receiver looks for a frame. The place of the one that is taken goes to the first in line that has none. -/
def receive (s : Outbound α) : Answer α × Outbound α :=
  match s.queue.pop with
  | (.frame a, q) => (.received (.frame a), { s with queue := q, places := min (s.places + 1) s.line.length })
  | (r, q) => (.received r, { s with queue := q })

/-- What is done and what comes of it, if it can be done: only who is there can do something, and a sender that waits
stays. -/
def act (s : Outbound α) : Act α → Option (Answer α × Outbound α)
  | .trySend a => if s.queue.senders = 0 then none else some (s.trySend a)
  | .send a => if s.queue.senders = 0 then none else some (s.send a)
  | .resume i => s.resume i
  | .giveUp i => if i < s.line.length then some (.done, s.leave i) else none
  | .addSender => if s.queue.senders = 0 then none else some (.done, { s with queue := s.queue.addSender })
  | .dropSender =>
    if s.queue.senders = 0 ∨ s.queue.senders = 1 ∧ s.line ≠ [] then none
    else some (.done, { s with queue := s.queue.dropSender })
  | .receive => if s.queue.receiving then some s.receive else none
  | .dropReceiver => if s.queue.receiving then some (.done, { s with queue := s.queue.dropReceiver }) else none

/-- What the one who does it would learn. -/
def answer? (s : Outbound α) (a : Act α) : Option (Answer α) := (s.act a).map (·.1)

/-- One act after another: the answers, and the stream then. -/
def run (s : Outbound α) : List (Act α) → Option (List (Answer α) × Outbound α)
  | [] => some ([], s)
  | a :: as => do
    let (r, s) ← s.act a
    let (rs, s) ← s.run as
    some (r :: rs, s)

end Outbound

end Custodian
