import Relay.Channel.Basic

namespace Relay.Channel

variable {α : Type}

inductive Call (α : Type) where
  | send (value : α) (patience : Patience)
  | receive (patience : Patience)

inductive Reply (α : Type) where
  | sent (result : Except Error Unit)
  | received (result : Except Error α)

def Call.patience : Call α → Patience
  | .send _ patience | .receive patience => patience

def Call.isSend : Call α → Bool
  | .send .. => true
  | .receive _ => false

/-- Where an operation stands: about to look at the channel, waiting to be notified, notified and
about to look again, or finished. -/
inductive Phase (α : Type) where
  | arriving
  | parked
  | notified
  | finished (reply : Reply α)

def Phase.isParked : Phase α → Bool
  | .parked => true
  | _ => false

def Phase.mayLook : Phase α → Bool
  | .arriving | .notified => true
  | _ => false

structure Caller (α : Type) where
  call : Call α
  phase : Phase α

/-- A channel, the operations on it, the notifications still due to single receivers, and those still
due to all receivers and all senders. -/
structure Crowd (α : Type) where
  channel : Channel α
  callers : List (Caller α)
  notices : Nat
  closingReceivers : Bool
  closingSenders : Bool

inductive Event (α : Type) where
  | arrive (call : Call α)
  | look (caller : Nat) (spent : Bool) (woken : Option Nat)
  | notice (woken : Option Nat)
  | leave (caller : Nat)
  | close
  | wakeReceivers
  | wakeSenders

namespace Crowd

def ofChannel (channel : Channel α) : Crowd α := ⟨channel, [], 0, false, false⟩

def waits (sender : Bool) (caller : Caller α) : Bool :=
  caller.call.isSend == sender && caller.phase.isParked

def parked (s : Crowd α) (sender : Bool) : List Nat :=
  (List.range s.callers.length).filter fun i => s.callers[i]?.any (waits sender)

def setPhase (s : Crowd α) (caller : Nat) (phase : Phase α) : Crowd α :=
  { s with callers := s.callers.modify caller fun c => { c with phase } }

/-- Notifies the chosen one of the parked senders or receivers; nobody, if there is none. -/
def wake (s : Crowd α) (sender : Bool) : Option Nat → Option (Crowd α)
  | some i => if s.callers[i]?.any (waits sender) then some (s.setPhase i .notified) else none
  | none => if s.callers.any (waits sender) then none else some s

def wakeAll (s : Crowd α) (sender : Bool) : Crowd α :=
  { s with callers := s.callers.map fun c => if waits sender c then { c with phase := .notified } else c }

def look (s : Crowd α) (i : Nat) (caller : Caller α) (spent : Bool) (woken : Option Nat) :
    Option (Crowd α) :=
  match caller.call with
  | .send value patience =>
    match s.channel.attemptSend value patience spent with
    | (.wait, _) => some (s.setPhase i .parked)
    | (.done (.ok ()), channel) =>
      some { s.setPhase i (.finished (.sent (.ok ()))) with channel, notices := s.notices + 1 }
    | (.done (.error e), _) => some (s.setPhase i (.finished (.sent (.error e))))
  | .receive patience =>
    match s.channel.attemptReceive patience spent with
    | (.wait, _) => some (s.setPhase i .parked)
    | (.done (.ok value), channel) =>
      { s.setPhase i (.finished (.received (.ok value))) with channel }.wake true woken
    | (.done (.error e), _) => some (s.setPhase i (.finished (.received (.error e))))

/-- The state after an event; none when the event cannot happen. A parked operation may leave at any
time, as when its deadline or the time between two looks at a token has passed. The thread that a
notification reaches, and what clocks and tokens read, are part of the event. -/
def step (s : Crowd α) : Event α → Option (Crowd α)
  | .arrive call => some { s with callers := s.callers ++ [⟨call, .arriving⟩] }
  | .look i spent woken =>
    match s.callers[i]? with
    | some caller => if caller.phase.mayLook then s.look i caller spent woken else none
    | none => none
  | .notice woken =>
    match s.notices with
    | 0 => none
    | n + 1 => { s with notices := n }.wake false woken
  | .leave i =>
    match s.callers[i]? with
    | some caller =>
      if caller.phase.isParked then some (s.setPhase i .arriving) else none
    | none => none
  | .close =>
    if s.channel.closed then some s
    else some { s with channel := s.channel.close, closingReceivers := true, closingSenders := true }
  | .wakeReceivers =>
    if s.closingReceivers then some { s.wakeAll false with closingReceivers := false } else none
  | .wakeSenders =>
    if s.closingSenders then some { s.wakeAll true with closingSenders := false } else none

def reply? (s : Crowd α) (i : Nat) : Option (Reply α) :=
  match s.callers[i]? with
  | some ⟨_, .finished reply⟩ => some reply
  | _ => none

/-- Whether a caller's patience is at an end before any deadline: its token is cancelled. -/
def interrupted (cancelled : Bool) (caller : Caller α) : Bool :=
  cancelled && caller.call.patience == .token

def first? (s : Crowd α) (p : Caller α → Bool) : Option Nat :=
  (List.range s.callers.length).find? fun i => s.callers[i]?.any p

/-- The next event when notifications go to those who wait longest, operations look in the order they
arrived, and no deadline passes; `cancelled` is the reading of the token. -/
def next? (s : Crowd α) (cancelled : Bool) : Option (Event α) :=
  if s.closingReceivers then some .wakeReceivers
  else if s.closingSenders then some .wakeSenders
  else if s.notices ≠ 0 then some (.notice (s.parked false).head?)
  else
    match s.first? (·.phase.mayLook) with
    | some i => some (.look i (s.callers[i]?.any (interrupted cancelled)) (s.parked true).head?)
    | none => (s.first? fun c => c.phase.isParked && interrupted cancelled c).map .leave

/-- Lets the callers go on until all of them have finished or are parked. -/
def settle (cancelled : Bool) : (fuel : Nat) → Crowd α → Crowd α
  | 0, s => s
  | fuel + 1, s =>
    match s.next? cancelled with
    | none => s
    | some event => ((s.step event).map (settle cancelled fuel)).getD s

/-- Lets the deadline of a parked caller pass. -/
def expire (s : Crowd α) (i : Nat) : Crowd α :=
  let left := (s.step (.leave i)).getD s
  (left.step (.look i true (left.parked true).head?)).getD left

/-- Enough steps for all callers: each looks once by itself, and once after each notification. -/
def fuel (s : Crowd α) : Nat := 8 * (s.callers.length + s.notices + 2)

end Crowd

end Relay.Channel
