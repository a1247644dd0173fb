import Relay.Channel.Crowd

namespace Relay.Bridge

variable {α : Type}

/-- Where a worker stands: receiving, as a caller of the channel, about to print, or returned. -/
inductive Worker (α : Type) where
  | receiving (caller : Nat)
  | printing (value : α)
  | returned (result : Except Channel.Error Unit)

/-- How far a service is stopped: it serves, its listener sends no more, or its channel is closed. -/
inductive Printing.Stage where
  | serving
  | quiet
  | closed
  deriving DecidableEq, Repr

/-- The channel of a service and all operations on it, the workers, which of their tokens are
cancelled, what was printed, oldest first, and how far the service is stopped. -/
structure Printing (α : Type) where
  crowd : Channel.Crowd α
  workers : List (Worker α)
  cancelled : List Bool
  printed : List α
  stage : Printing.Stage

/-- What can happen next. A worker that is about to look at the channel reads its token then; for a
sender, the reading of its token is part of the event. -/
inductive Printing.Event (α : Type) where
  | arrive (value : α)
  | look (caller : Nat) (interrupted : Bool) (woken : Option Nat)
  | leave (caller : Nat)
  | notice (woken : Option Nat)
  | wakeReceivers
  | wakeSenders
  | received (worker : Nat)
  | print (worker : Nat)
  | silence
  | close
  | cancel (worker : Nat)

namespace Printing

def receiving : Channel.Call α := .receive .token

/-- A service on a channel, with workers that are about to look at it. -/
def start (channel : Channel α) (workers : Nat) : Printing α where
  crowd := ⟨channel, List.replicate workers ⟨receiving, .arriving⟩, 0, false, false⟩
  workers := (List.range workers).map .receiving
  cancelled := List.replicate workers false
  printed := []
  stage := .serving

def workerOf? (s : Printing α) (caller : Nat) : Option Nat :=
  s.workers.findIdx? fun
    | .receiving i => i == caller
    | _ => false

/-- Whether the token of a caller may read as it does: that of a worker reads as it stands. -/
def reads (s : Printing α) (caller : Nat) (interrupted : Bool) : Bool :=
  match s.workerOf? caller with
  | some worker => s.cancelled[worker]? == some interrupted
  | none => true

def onChannel (s : Printing α) (event : Channel.Event α) : Option (Printing α) :=
  (s.crowd.step event).map fun crowd => { s with crowd }

def setWorker (s : Printing α) (i : Nat) (worker : Worker α) : Printing α :=
  { s with workers := s.workers.set i worker }

/-- A worker whose operation is finished: it has something to print, or it returns, well if the channel
is closed or its token was cancelled. -/
def conclude (s : Printing α) (i : Nat) : Except Channel.Error α → Printing α
  | .ok value => s.setWorker i (.printing value)
  | .error .closed | .error .interrupted => s.setWorker i (.returned (.ok ()))
  | .error e => s.setWorker i (.returned (.error e))

def isSending (caller : Channel.Caller α) : Bool :=
  match caller with
  | ⟨.send .., .finished _⟩ => false
  | ⟨.send .., _⟩ => true
  | ⟨.receive _, _⟩ => false

/-- The state after an event; none when the event cannot happen. The thread that stops the service
closes the channel before it cancels the tokens of the workers. A worker may look again at any time. -/
def step (s : Printing α) : Event α → Option (Printing α)
  | .arrive value => if s.stage = .serving then s.onChannel (.arrive (.send value .token)) else none
  | .look caller interrupted woken =>
    if s.reads caller interrupted then s.onChannel (.look caller interrupted woken) else none
  | .leave caller => s.onChannel (.leave caller)
  | .notice woken => s.onChannel (.notice woken)
  | .wakeReceivers => s.onChannel .wakeReceivers
  | .wakeSenders => s.onChannel .wakeSenders
  | .received i =>
    match s.workers[i]? with
    | some (.receiving caller) =>
      match s.crowd.reply? caller with
      | some (.received result) => some (s.conclude i result)
      | _ => none
    | _ => none
  | .print i =>
    match s.workers[i]? with
    | some (.printing value) =>
      (s.onChannel (.arrive receiving)).map fun after =>
        { after.setWorker i (.receiving s.crowd.callers.length) with printed := s.printed ++ [value] }
    | _ => none
  | .silence =>
    if s.stage = .serving && !s.crowd.callers.any isSending then some { s with stage := .quiet }
    else none
  | .close =>
    if s.stage = .quiet then (s.onChannel .close).map fun s => { s with stage := .closed } else none
  | .cancel i =>
    if s.stage = .closed then some { s with cancelled := s.cancelled.set i true } else none

def accepted (s : Printing α) : List α :=
  s.crowd.callers.filterMap fun
    | ⟨.send value _, .finished (.sent (.ok ()))⟩ => some value
    | _ => none

def isOver (s : Printing α) : Bool :=
  s.workers.all fun
    | .returned _ => true
    | _ => false

end Printing

end Relay.Bridge
