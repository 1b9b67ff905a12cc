import Custodian.Channel

/-!
# A channel and its other side

`Line` : a control channel together with an orchestrator that follows a plan, call by call. `Line.settle` lets the
listener go on until it has nothing left to do: a frame in the queue of a call is taken at once, and once the channel is
cancelled the listener stops.
-/

namespace Custodian

set_option autoImplicit false

/-- How a control call is answered. -/
inductive Opening where
  | opens
  | fails (e : Error)
  | hangs
deriving DecidableEq, Inhabited

/-- How one control call goes: whether it opens, and what can be read from it. -/
structure ControlPlan where
  opening : Opening := .opens
  items : List (Except Error OrchestratorFrame) := []
deriving Inhabited

/-- A channel, the plans of the calls to come, and the call at hand. -/
structure Line where
  channel : Channel
  /-- The calls to come, and what every call after them is like. -/
  plans : List ControlPlan
  beyond : ControlPlan
  current : ControlPlan := {}
  /-- Whether a call is open, so that more can be fed to it. -/
  isOpen : Bool := false
  /-- The frames that went to each call. -/
  sent : Array (Nat × AgentFrame) := #[]

namespace Line

/-- Takes every frame out of the queue of the call at hand. -/
def flush (l : Line) : Line :=
  if l.channel.listener.inCall then
    let (fs, q) := l.channel.queue.drain
    { l with
      channel := { l.channel with queue := q }
      sent := l.sent ++ (fs.map (l.channel.calls, ·)).toArray }
  else l

/-- Lets an event happen; one that cannot happen changes nothing. -/
def event (l : Line) (e : Channel.Event) : Line × Channel.Reply :=
  match l.channel.react e with
  | some (c, r) => (({ l with channel := c } : Line).flush, r)
  | none => (l, .done)

/-- A frame from the agent. -/
def send (l : Line) (f : AgentFrame) : Line × Channel.Reply := l.event (.send f)

/-- Feeds items to the open call. -/
def feed (l : Line) (items : List (Except Error OrchestratorFrame)) : Line :=
  { l with current := { l.current with items := l.current.items ++ items } }

/-- The next plan becomes the call at hand. -/
def nextCall (l : Line) : Line :=
  match l.plans with
  | [] => { l with current := l.beyond }
  | p :: ps => { l with current := p, plans := ps }

/-- The call at hand has come to an end. -/
def endCall (l : Line) : Line := { l with isOpen := false, current := {} }

/-- How a handler deals with a frame: what it does to the line and to its own state. -/
abbrev Handler (σ : Type) := OrchestratorFrame → Line × σ → Line × σ

variable {σ : Type}

/-- What the listener does next, if anything. -/
def step? (handler : Handler σ) (s : Line × σ) : Option (Line × σ) :=
  let (l, a) := s
  if l.channel.cancelled then
    if l.channel.listener.running then some ((l.event .stop).1, a) else none
  else
    match l.channel.listener with
    | .waiting => if l.channel.ready then some ((l.event .proceed).1, a) else none
    | .dialing => some ((l.nextCall.event .dial).1, a)
    | .opening =>
      match l.current.opening with
      | .opens => some (({ l with isOpen := true }.event (.opened (.ok ()))).1, a)
      | .fails e => some ((l.endCall.event (.opened (.error e))).1, a)
      | .hangs => none
    | .reading =>
      match l.current.items with
      | [] => none
      | .ok f :: rest =>
        let l := (({ l with current := { l.current with items := rest } } : Line).event (.received (.ok f))).1
        let (l, a) := handler f (l, a)
        some ((l.event .handled).1, a)
      | .error e :: _ => some ((l.endCall.event (.received (.error e))).1, a)
    | .absent | .handling _ | .gone => none

/-- Up to `fuel` steps of the listener. -/
def settleWithin (handler : Handler σ) : Nat → Line × σ → Line × σ
  | 0, s => s
  | fuel + 1, s =>
    match step? handler s with
    | none => s
    | some s => settleWithin handler fuel s

/-- How many items planned calls deliver, and how many such calls there are. -/
def planned : List ControlPlan → Nat
  | [] => 0
  | p :: ps => p.items.length + 1 + planned ps

/-- How many items the calls may still deliver, and how many calls have a plan of their own. -/
def work (l : Line) : Nat := l.current.items.length + planned l.plans + 1

/-- Lets the listener go on until it has nothing left to do. Every call takes at most three steps and one for each of
its items, and among as many calls as are allowed in a row one delivers an item that is still to come. -/
def settle (handler : Handler σ) (s : Line × σ) : Line × σ :=
  settleWithin handler (4 * s.1.work * (s.1.channel.limit + 2) + 4) s

/-- A new line. -/
def ofPlans (limit : Nat) (plans : List ControlPlan) (beyond : ControlPlan) : Line :=
  { channel := { limit := limit }, plans := plans, beyond := beyond }

/-- Closes the channel; the other side still has its end of an open call. -/
def close (l : Line) : Line := (l.event .close).1

/-- Shuts the channel down: cancels the listener, waits for its end and stops. -/
def shutdown (l : Line) : Line :=
  let l := (l.event .beginShutdown).1
  let l := (l.event .stop).1
  let l := (l.event .endShutdown).1
  { l with isOpen := false }

end Line

end Custodian
