import Custodian.Channel

/-!
# A channel one step at a time

`Interleaved` : a control channel and everybody at work on it: callers in the middle of sending a frame, callers who
shut it down, the listener, and the other side of each call. Between two steps of one of them the others may take any
of theirs; to establish or to close a channel is one step, as nobody is waited for.
`Interleaved.react` : what each step does. An event of a `Channel` is a row of these steps that nobody interrupts.
-/

namespace Custodian

set_option autoImplicit false

namespace Interleaved

/-- A call, from the making of its stream on. The callers tell who can send to it, not the count in its queue. -/
structure Call where
  /-- The frames on their way to the other side. -/
  queue : Queue AgentFrame := .ofCapacity Queue.defaultCapacity
  /-- The frames that went out. -/
  sent : List AgentFrame := []
  /-- Whether it could be opened, once this is known. -/
  answer : Option (Except Error Unit) := none
  /-- What came in. -/
  inbound : List (Except Error OrchestratorFrame) := []
  /-- How much of it the listener has read. -/
  read : Nat := 0

/-- How far somebody who sends a frame has come. -/
inductive Sender where
  /-- It has a sender of a call. -/
  | holding (call : Nat) (f : AgentFrame)
  /-- A registration has been kept, and the frame is to be queued; it may have found no room yet. -/
  | offering (call : Nat) (f : AgentFrame) (waited : Bool)
  /-- A registration has been queued, and the listener has to be told. -/
  | telling
  | returned (r : Channel.Reply)
deriving DecidableEq

/-- Where the listener stands. -/
inductive Position where
  | absent
  /-- It waits for the first registration. -/
  | waiting
  /-- It is about to open a call. -/
  | dialing (call : Nat)
  | opening (call : Nat)
  /-- It waits for the next frame of a call. -/
  | reading (call : Nat)
  | handling (call : Nat) (f : OrchestratorFrame)
  /-- A call has failed. -/
  | failed
  /-- It has taken the sender back, and the status is still to be shown. -/
  | leaving
  /-- The status is shown, and a new stream is to be made. -/
  | renewing
  /-- The new stream is made, and callers do not reach it yet. -/
  | publishing (call : Nat)
  | gone
deriving DecidableEq

/-- Whether the listener has been started and has not ended. -/
def Position.running : Position → Bool
  | .absent | .gone => false
  | _ => true

/-- Whether the listener waits for something: only then can it see that the channel is cancelled. -/
def Position.waits : Position → Bool
  | .waiting | .dialing _ | .opening _ | .reading _ | .handling _ _ => true
  | _ => false

/-- The call whose stream the listener has not handed over to the other side. -/
def Position.unopened : Position → Option Nat
  | .waiting => some 0
  | .dialing k | .publishing k => some k
  | _ => none

/-- The call whose answer the listener waits for or reads. -/
def Position.call : Position → Option Nat
  | .opening k | .reading k | .handling k _ => some k
  | _ => none

/-- Somebody who shuts the channel down. -/
structure Shutdown where
  /-- It took the listener out of the channel and waits for its end. -/
  joins : Bool
  returned : Bool := false
deriving DecidableEq

/-- What can happen next. -/
inductive Event where
  | establish
  /-- Somebody begins to send a frame and takes the sender at hand. -/
  | send (f : AgentFrame)
  /-- The `i`th of them keeps the frame for later calls if it is a registration. -/
  | keep (i : Nat)
  /-- It queues the frame, or waits if there is no room. -/
  | offer (i : Nat)
  /-- It tells the listener. -/
  | tell (i : Nat)
  /-- It gives up after it has found no room. -/
  | giveUp (i : Nat)
  | close
  | beginShutdown
  | endShutdown (i : Nat)
  /-- The listener sees the first registration. -/
  | proceed
  | dial
  | answer (r : Except Error Unit)
  | receive
  | handled
  /-- The listener decides what follows from a failed call. -/
  | judge
  | leave
  /-- It makes a new stream that begins with the last registration. -/
  | renew
  /-- It lets callers reach the new stream. -/
  | publish
  /-- It sees the cancellation. -/
  | stop
  /-- Something comes in from the other side of a call. -/
  | arrive (k : Nat) (r : Except Error OrchestratorFrame)
  /-- The other side takes a frame. -/
  | take (k : Nat)
  /-- The other side lets go of the stream. -/
  | release (k : Nat)

end Interleaved

open Interleaved in
/-- A control channel, those who use it, and what they have done so far. -/
structure Interleaved where
  limit : Nat
  status : ChannelStatus := .idle
  /-- The call that a caller reaches, if any. -/
  slot : Option Nat := none
  /-- What later calls begin with. -/
  lastRegister : Option AgentFrame := none
  /-- The listener has been told of a registration and has not seen it yet. -/
  ready : Bool := false
  cancelled : Bool := false
  /-- The channel holds its listener. -/
  established : Bool := false
  shutdowns : List Shutdown := []
  position : Position := .absent
  /-- Calls in a row that failed without a frame. -/
  retries : Nat := 0
  calls : List Call := []
  /-- Calls opened so far; they come first among all. -/
  opened : Nat := 0
  /-- Everybody who ever began to send a frame. -/
  senders : List Sender := []
  /-- The registrations that callers have kept for later calls. -/
  kept : List AgentFrame := []
  /-- What callers have queued, and for which call. -/
  queued : List (Nat × AgentFrame) := []
  /-- The frames that the handler was given. -/
  handed : List OrchestratorFrame := []
  /-- How often the handler has returned. -/
  returned : Nat := 0

namespace Interleaved

/-- Makes the listener of a channel that has none and was not closed, with the stream of its first call. -/
def establish (s : Interleaved) : Interleaved × Channel.Reply :=
  if s.established ∨ s.cancelled then (s, .refused (.streamError "control channel already established"))
  else
    ({ s with
      slot := some 0
      calls := [{}]
      status := .connecting
      established := true
      position := .waiting }, .done)

/-- The sender at hand, if any, goes to somebody who wants to send a frame. -/
def send (s : Interleaved) (f : AgentFrame) : Interleaved :=
  { s with
    senders := s.senders ++ [match s.slot with
      | some k => .holding k f
      | none => .returned (.refused .streamClosed)] }

/-- The `i`th of those who send comes further. -/
def advance (s : Interleaved) (i : Nat) (x : Sender) : Interleaved := { s with senders := s.senders.set i x }

/-- Changes a call. -/
def setCall (s : Interleaved) (k : Nat) (c : Call) : Interleaved := { s with calls := s.calls.set k c }

/-- Keeps a frame for later calls if it is a registration. -/
def keep (s : Interleaved) (i k : Nat) (f : AgentFrame) : Interleaved :=
  if f.isRegister then { s.advance i (.offering k f false) with lastRegister := some f, kept := s.kept ++ [f] }
  else s.advance i (.offering k f false)

/-- Queues a frame for a call; while there is no room its sender waits. -/
def offer (s : Interleaved) (i k : Nat) (f : AgentFrame) : Option Interleaved :=
  match s.calls[k]? with
  | none => none
  | some c =>
    match c.queue.push f with
    | (.accepted, q) =>
      some { (s.setCall k { c with queue := q }).advance i (if f.isRegister then .telling else .returned .done) with
        queued := s.queued ++ [(k, f)] }
    | (.full, _) => some (s.advance i (.offering k f true))
    | (.closed, _) => some (s.advance i (.returned (.refused .streamClosed)))

/-- Cancels the listener, takes the sender back and lets go of the listener. -/
def cancel (s : Interleaved) : Interleaved := { s with cancelled := true, slot := none, established := false }

/-- The status of a channel that was stopped by its owner. -/
def markStopped (s : Interleaved) : Interleaved := { s with status := .stopped .shutdown }

/-- The listener learns whether its call could be opened. -/
def answered (s : Interleaved) (k : Nat) (c : Call) (r : Except Error Unit) : Interleaved :=
  match r with
  | .ok _ => { s.setCall k { c with answer := some r } with position := .reading k, status := .listening }
  | .error _ => { s.setCall k { c with answer := some r } with position := .failed }

/-- The listener reads what comes next in its call. -/
def read (s : Interleaved) (k : Nat) (c : Call) (r : Except Error OrchestratorFrame) : Interleaved :=
  match r with
  | .ok f =>
    { s.setCall k { c with read := c.read + 1 } with
      position := .handling k f
      retries := 0
      handed := s.handed ++ [f] }
  | .error _ => { s.setCall k { c with read := c.read + 1 } with position := .failed }

/-- After a failed call: the end when too many failed in a row, else another call. -/
def judge (s : Interleaved) : Interleaved :=
  if s.limit ≤ s.retries then { s with slot := none, position := .leaving }
  else { s with retries := s.retries + 1, status := .connecting, position := .renewing }

/-- The stream of a call that follows a failed one. -/
def freshCall (last : Option AgentFrame) : Call :=
  match last with
  | some r => { queue := ((Queue.ofCapacity Queue.defaultCapacity).push r).2 }
  | none => {}

/-- Makes the stream of the next call. -/
def renew (s : Interleaved) : Interleaved :=
  { s with calls := s.calls ++ [freshCall s.lastRegister], position := .publishing s.calls.length }

/-- The listener ends; a stream that it has not handed over goes with it. -/
def stop (s : Interleaved) : Interleaved :=
  { s with
    position := .gone
    calls := match s.position.unopened with
      | some k => s.calls.modify k fun c => { c with queue := c.queue.dropReceiver }
      | none => s.calls }

/-- What the other side of a call that was opened does to it. -/
def atCall (s : Interleaved) (k : Nat) (change : Call → Option Call) : Option Interleaved :=
  if k < s.opened then (s.calls[k]?.bind change).map (s.setCall k) else none

/-- What an event does; none if it cannot happen. -/
def react (s : Interleaved) : Event → Option Interleaved
  | .establish => some s.establish.1
  | .send f => some (s.send f)
  | .keep i =>
    match s.senders[i]? with
    | some (.holding k f) => some (s.keep i k f)
    | _ => none
  | .offer i =>
    match s.senders[i]? with
    | some (.offering k f _) => s.offer i k f
    | _ => none
  | .tell i =>
    match s.senders[i]? with
    | some .telling => some { s.advance i (.returned .done) with ready := true }
    | _ => none
  | .giveUp i =>
    match s.senders[i]? with
    | some (.offering _ _ true) => some (s.advance i (.returned .pending))
    | _ => none
  | .close => some s.cancel.markStopped
  | .beginShutdown => some { s.cancel with shutdowns := s.shutdowns ++ [⟨s.established, false⟩] }
  | .endShutdown i =>
    match s.shutdowns[i]? with
    | some ⟨joins, false⟩ =>
      if joins && s.position.running then none
      else some { s.markStopped with shutdowns := s.shutdowns.set i ⟨joins, true⟩ }
    | _ => none
  | .proceed =>
    if s.position = .waiting ∧ s.ready then some { s with ready := false, position := .dialing 0 } else none
  | .dial =>
    match s.position with
    | .dialing k => some { s with position := .opening k, opened := s.opened + 1 }
    | _ => none
  | .answer r =>
    match s.position with
    | .opening k => s.calls[k]?.map fun c => s.answered k c r
    | _ => none
  | .receive =>
    match s.position with
    | .reading k => s.calls[k]?.bind fun c => c.inbound[c.read]?.map fun r => s.read k c r
    | _ => none
  | .handled =>
    match s.position with
    | .handling k _ => some { s with position := .reading k, returned := s.returned + 1 }
    | _ => none
  | .judge => if s.position = .failed then some s.judge else none
  | .leave =>
    if s.position = .leaving then some { s with status := .stopped .registrationExhausted, position := .gone } else none
  | .renew => if s.position = .renewing then some s.renew else none
  | .publish =>
    match s.position with
    | .publishing k => some { s with slot := some k, position := .dialing k }
    | _ => none
  | .stop => if s.cancelled ∧ s.position.waits then some s.stop else none
  | .arrive k r => s.atCall k fun c => some { c with inbound := c.inbound ++ [r] }
  | .take k => s.atCall k fun c =>
    match c.queue.waiting with
    | f :: _ => some { c with queue := c.queue.pop.2, sent := c.sent ++ [f] }
    | [] => none
  | .release k => s.atCall k fun c => some { c with queue := c.queue.dropReceiver }

/-- A row of events, none if one of them cannot happen. -/
def run (s : Interleaved) : List Event → Option Interleaved
  | [] => some s
  | e :: es => (s.react e).bind fun s' => run s' es

end Interleaved

end Custodian
