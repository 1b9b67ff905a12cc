import Custodian.Identity
import Custodian.Queue

/-!
# The control channel

`Channel` : a long-lived channel to an orchestrator. Callers establish it, send frames and close it; a listener waits
for the first registration, opens a control call, hands every frame it reads to a handler, and opens a new call with
the last registration when one fails, until too many in a row delivered nothing. `Channel.react` : what each event
does; events may come in any order in which they are possible. Once the channel is cancelled the listener may stop at
any point, but it may also first take whatever else is ready.
-/

namespace Custodian

set_option autoImplicit false

/-- Why a channel stopped. -/
inductive StopReason where
  | registrationExhausted
  | shutdown
deriving DecidableEq, Inhabited

/-- What a channel shows of itself. -/
inductive ChannelStatus where
  | idle
  | connecting
  | listening
  | stopped (why : StopReason)
deriving DecidableEq, Inhabited

/-- Where the listener of a channel stands. -/
inductive Listener where
  /-- It has not been started. -/
  | absent
  /-- It waits for the first registration. -/
  | waiting
  /-- It is about to open a call. -/
  | dialing
  /-- A call is being opened. -/
  | opening
  /-- It waits for the next frame of the open call. -/
  | reading
  /-- The handler is at work on a frame. -/
  | handling (f : OrchestratorFrame)
  /-- It has ended. -/
  | gone
deriving DecidableEq, Inhabited

/-- Whether a listener runs. -/
def Listener.running : Listener → Bool
  | .absent | .gone => false
  | _ => true

/-- Whether a listener has a call, open or being opened. -/
def Listener.inCall : Listener → Bool
  | .opening | .reading | .handling _ => true
  | _ => false

/-- A control channel. The queue leads to the newest call; it has a sender as long as frames are accepted. -/
structure Channel where
  limit : Nat
  status : ChannelStatus := .idle
  queue : Queue AgentFrame := (Queue.ofCapacity Queue.defaultCapacity).dropSender
  lastRegister : Option AgentFrame := none
  /-- A registration has been queued and the listener has not seen it yet. -/
  ready : Bool := false
  cancelled : Bool := false
  /-- The channel holds its listener. -/
  established : Bool := false
  /-- A caller who shuts the channel down waits for the listener. -/
  joining : Bool := false
  listener : Listener := .absent
  /-- Calls in a row that failed without a frame. -/
  retries : Nat := 0
  /-- Calls opened so far. -/
  calls : Nat := 0

namespace Channel

/-- What can happen to a channel. -/
inductive Event where
  | establish
  | send (f : AgentFrame)
  | close
  | beginShutdown
  | endShutdown
  /-- The listener sees the first registration. -/
  | proceed
  /-- The listener opens a call. -/
  | dial
  | opened (r : Except Error Unit)
  | received (r : Except Error OrchestratorFrame)
  | handled
  /-- The call takes a frame out of the queue. -/
  | taken
  /-- The listener sees the cancellation. -/
  | stop

/-- What a caller learns. -/
inductive Reply where
  | done
  /-- There is no room in the queue. -/
  | pending
  | refused (e : Error)
deriving DecidableEq, Inhabited

/-- Makes the listener of a channel that has none and was not closed. -/
def establish (c : Channel) : Channel × Reply :=
  if c.established ∨ c.cancelled then (c, .refused (.streamError "control channel already established"))
  else
    ({ c with
      queue := .ofCapacity Queue.defaultCapacity
      status := .connecting
      established := true
      listener := .waiting }, .done)

/-- Queues a frame. A registration is kept for later calls even if there is no room for it. -/
def send (c : Channel) (f : AgentFrame) : Channel × Reply :=
  if c.queue.senders = 0 then (c, .refused .streamClosed)
  else
    let last := if f.isRegister then some f else c.lastRegister
    match c.queue.push f with
    | (.accepted, q) => ({ c with queue := q, lastRegister := last, ready := c.ready || f.isRegister }, .done)
    | (.full, _) => ({ c with lastRegister := last }, .pending)
    | (.closed, _) => ({ c with lastRegister := last }, .refused .streamClosed)

/-- Cancels the listener, accepts no more frames and lets go of the listener. -/
def cancel (c : Channel) : Channel :=
  { c with cancelled := true, queue := c.queue.dropSender, established := false }

/-- The status of a channel that was stopped by its owner. -/
def markStopped (c : Channel) : Channel := { c with status := .stopped .shutdown }

/-- What a failed call leads to: the end when too many failed in a row, else a new queue that starts with the last
registration. -/
def fail (c : Channel) : Channel :=
  if c.limit ≤ c.retries then
    { c with
      queue := c.queue.dropSender
      status := .stopped .registrationExhausted
      listener := .gone }
  else
    let fresh : Queue AgentFrame := .ofCapacity Queue.defaultCapacity
    { c with
      retries := c.retries + 1
      status := .connecting
      queue := match c.lastRegister with
        | some r => (fresh.push r).2
        | none => fresh
      listener := .dialing }

/-- The listener ends. If no call has its queue yet, nothing will read it any more. -/
def stop (c : Channel) : Channel :=
  { c with listener := .gone, queue := if c.listener.inCall then c.queue else c.queue.dropReceiver }

/-- What an event does to a channel; none if it cannot happen. -/
def react (c : Channel) : Event → Option (Channel × Reply)
  | .establish => some c.establish
  | .send f => some (c.send f)
  | .close => some (c.cancel.markStopped, .done)
  | .beginShutdown => some ({ c.cancel with joining := c.joining || c.established }, .done)
  | .endShutdown => if c.joining && c.listener.running then none else some (c.markStopped, .done)
  | .proceed =>
    if c.listener = .waiting ∧ c.ready then some ({ c with ready := false, listener := .dialing }, .done) else none
  | .dial =>
    if c.listener = .dialing then some ({ c with listener := .opening, calls := c.calls + 1 }, .done) else none
  | .opened r =>
    if c.listener = .opening then
      match r with
      | .ok _ => some ({ c with listener := .reading, status := .listening }, .done)
      | .error _ => some (c.fail, .done)
    else none
  | .received r =>
    if c.listener = .reading then
      match r with
      | .ok f => some ({ c with listener := .handling f, retries := 0 }, .done)
      | .error _ => some (c.fail, .done)
    else none
  | .handled =>
    match c.listener with
    | .handling _ => some ({ c with listener := .reading }, .done)
    | _ => none
  | .taken =>
    if c.listener.inCall ∧ c.queue.waiting ≠ [] then some ({ c with queue := c.queue.pop.2 }, .done) else none
  | .stop => if c.cancelled ∧ c.listener.running then some (c.stop, .done) else none

/-- A row of events, none if one of them cannot happen. -/
def run (c : Channel) : List Event → Option Channel
  | [] => some c
  | e :: es => (c.react e).bind fun r => run r.1 es

end Channel

end Custodian
