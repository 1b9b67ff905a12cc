import Custodian.Message.Basic
import Custodian.Queue

/-!
# Backup calls

`BackupCall` : a call that takes backup frames in through a bounded queue. The other side reads at a pace of its own, a
`Turn` before each step of the sender, and whenever the sender lets it: `send` waits for it when the queue is full,
`pause` and `finish` always. It may stop reading at any frame, and accepts or refuses in the end; when it finds that the
sender is gone and nothing waits any more, it takes the row of frames for complete. A sender that gives up therefore
cancels the call before it goes: `abandon`.
-/

namespace Custodian

set_option autoImplicit false

/-- What the other side of a call does while the sender is at work: it reads some of the frames that wait, and it may
end the call once it has all it wants. -/
structure Turn where
  reads : Nat := 0
  leaves : Bool := true
deriving DecidableEq, Inhabited

/-- How the other side of a call behaves: after how many frames it stops reading, if it does, what it answers, and at
what pace it goes. -/
structure CallPlan where
  stopAfter : Option Nat := none
  verdict : Except Error Unit := .ok ()
  pace : List Turn := []
deriving Inhabited

/-- A call in progress. -/
structure BackupCall where
  plan : CallPlan
  queue : Queue BackupFrame := .ofCapacity Queue.defaultCapacity
  /-- The turns that the other side still takes. -/
  turns : List Turn := plan.pace
  /-- The frames that the queue has taken in. -/
  accepted : Array BackupFrame := #[]
  received : Array BackupFrame := #[]
  /-- The other side has ended the call. -/
  ended : Bool := false
  /-- The sender has cancelled the call before that. -/
  cancelled : Bool := false
  /-- The other side has seen that no more frames follow. -/
  sawEnd : Bool := false

namespace BackupCall

/-- A new call. -/
def start (plan : CallPlan) : BackupCall := { plan := plan }

/-- Whether the other side does nothing any more. -/
def idle (c : BackupCall) : Bool := c.ended || c.cancelled

/-- How many of `n` frames the other side still wants. -/
def wanted (c : BackupCall) (n : Nat) : Nat :=
  match c.plan.stopAfter with
  | none => n
  | some m => min n (m - c.received.size)

/-- The other side reads up to `n` of the frames that wait, or as many of them as it wants. -/
def read (n : Nat) (c : BackupCall) : BackupCall :=
  if c.idle then c
  else
    let (got, queue) := c.queue.take (c.wanted n)
    { c with queue := queue, received := c.received ++ got.toArray }

/-- The other side ends the call if it has all it wants. -/
def leave (c : BackupCall) : BackupCall :=
  match c.plan.stopAfter with
  | none => c
  | some n =>
    if c.idle ∨ c.received.size < n then c else { c with queue := c.queue.dropReceiver, ended := true }

/-- The other side reads what waits, or as much of it as it wants. -/
def readOn (c : BackupCall) : BackupCall := (c.read c.queue.waiting.length).leave

/-- The other side takes its next turn. -/
def turn (c : BackupCall) : BackupCall :=
  match c.turns with
  | [] => c
  | t :: ts =>
    let c := ({ c with turns := ts } : BackupCall).read t.reads
    if t.leaves then c.leave else c

/-- The sender is busy with something else, and the other side reads on. -/
def pause (c : BackupCall) : BackupCall := c.readOn

/-- Puts a frame into the queue, if there is a receiver and room. -/
def push (c : BackupCall) (f : BackupFrame) : Queue.Sent × BackupCall :=
  match c.queue.push f with
  | (.accepted, q) => (.accepted, { c with queue := q, accepted := c.accepted.push f })
  | (r, _) => (r, c)

/-- Puts a frame into the queue, after the other side has read on if there is no room. -/
def send (c : BackupCall) (f : BackupFrame) : Except Error Unit × BackupCall :=
  match c.turn.push f with
  | (.accepted, c) => (.ok (), c)
  | (.closed, c) => (.error .streamClosed, c)
  | (.full, c) =>
    match c.readOn.push f with
    | (.accepted, c) => (.ok (), c)
    | (_, c) => (.error .streamClosed, c)

/-- The other side looks for another frame. If none waits and the sender is gone, it has them all and ends the call. -/
def seeEnd (c : BackupCall) : BackupCall :=
  if c.idle then c
  else
    match c.queue.pop.1 with
    | .ended => { c with ended := true, sawEnd := true }
    | _ => c

/-- The sender goes. -/
def dropSender (c : BackupCall) : BackupCall := { c with queue := c.queue.dropSender }

/-- Ends the row of frames and waits for the answer. -/
def finish (c : BackupCall) : Except Error Unit × BackupCall :=
  let c := c.turn.dropSender.readOn.seeEnd
  (c.plan.verdict, c)

/-- Cancels a call that goes on: the other side lets go of the queue and does nothing any more. -/
def cancel (c : BackupCall) : BackupCall :=
  if c.ended then c else { c with cancelled := true, queue := c.queue.dropReceiver }

/-- The sender gives up, and nobody waits for an answer. The call is cancelled first; then the sender goes, and the
other side goes on as far as it still can. -/
def abandon (c : BackupCall) : BackupCall := c.cancel.dropSender.readOn.seeEnd

/-- What a failed step means: when the stream is closed the call has ended, and its own refusal tells more; after any
other failure nobody wants the call any more. -/
def explain (c : BackupCall) (e : Error) : Error × BackupCall :=
  match e with
  | .streamClosed =>
    match c.finish with
    | (.error r, c) => (r, c)
    | (.ok _, c) => (.streamClosed, c)
  | e => (e, c.abandon)

/-- The frames received, unless the call was cancelled before it ended. -/
def result (c : BackupCall) : Option (List BackupFrame) := if c.ended then some c.received.toList else none

end BackupCall

end Custodian
