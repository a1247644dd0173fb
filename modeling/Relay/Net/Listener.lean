import Relay.Spawn.Pool

namespace Relay

/-- Where the task that accepts connections stands: about to look at the token, about to take a
connection, spawning a task with a call, or at its end. -/
inductive Listener.Accepting where
  | looking
  | taking
  | spawning (call : Nat)
  | ended
  deriving DecidableEq, Repr

/-- How far a listener is stopped: not at all, its token is cancelled, the handles taken the first or
the second time are being joined, or all is over. -/
inductive Listener.Stopping where
  | running
  | cancelled
  | firstPass
  | secondPass
  | stopped
  deriving DecidableEq, Repr

/-- The pool of a listener, its accepting task, and how far it is stopped. -/
structure Listener where
  pool : Spawn.Pool
  accepting : Listener.Accepting
  stopping : Listener.Stopping

/-- What taking a connection gives: one, none yet, or a failure of the socket. -/
inductive Listener.Taken where
  | connection
  | nothing
  | failure
  deriving DecidableEq, Repr

inductive Listener.Event where
  | look
  | take (taken : Listener.Taken)
  | spawned
  | pool (event : Spawn.Event)
  | cancel
  | takeHandles
  | endPass

namespace Listener

def config : Spawn.Config := .withNamePrefix .unbounded "strand-listen"

/-- A listener whose accepting task is about to be spawned. -/
def start : Listener where
  pool := ((Spawn.Pool.ofConfig config).step (.call none)).getD (.ofConfig config)
  accepting := .looking
  stopping := .running

def isCancelled (l : Listener) : Bool := l.stopping != .running

/-- Whether the accepting task runs: it is the first one, and holds its slot. -/
def isAccepting (l : Listener) : Bool := l.pool.tasks[0]? == some .running

/-- Whether the call that spawns the accepting task is done, so that the listener has an owner. -/
def isStarted (l : Listener) : Bool :=
  match l.pool.phase? 0 with
  | some (.done _) => true
  | _ => false

def passIsOver (l : Listener) : Bool := l.pool.joining.getLast?.any (·.isEmpty)

/-- Whether an event of the pool may happen now. Calls and passes are made by the listener alone, and
the accepting task gives back its slot only at its end. -/
def admits (l : Listener) : Spawn.Event → Bool
  | .call _ | .takeHandles => false
  | .release task => task != 0 || l.accepting == .ended
  | _ => true

def pass (l : Listener) (stopping : Stopping) : Option Listener :=
  (l.pool.step .takeHandles).map fun pool => { l with pool, stopping }

/-- The state after an event; none when the event cannot happen. The thread that stops the listener
cancels the token and then joins the tasks of the pool twice, as a connection that was accepted just
before may be registered after the first time. -/
def step (l : Listener) : Event → Option Listener
  | .look =>
    if l.isAccepting && l.accepting == .looking then
      some { l with accepting := if l.isCancelled then .ended else .taking }
    else none
  | .take taken =>
    if l.isAccepting && l.accepting == .taking then
      match taken with
      | .connection =>
        (l.pool.step (.call none)).map fun pool =>
          { l with pool, accepting := .spawning l.pool.calls.length }
      | .nothing => some { l with accepting := .looking }
      | .failure => some { l with accepting := .ended }
    else none
  | .spawned =>
    match l.accepting with
    | .spawning call =>
      match l.pool.phase? call with
      | some (.done _) => some { l with accepting := .looking }
      | _ => none
    | _ => none
  | .pool event =>
    if l.admits event then (l.pool.step event).map fun pool => { l with pool } else none
  | .cancel =>
    if l.isStarted && l.stopping == .running then some { l with stopping := .cancelled } else none
  | .takeHandles =>
    match l.stopping with
    | .cancelled => l.pass .firstPass
    | .firstPass => if l.passIsOver then l.pass .secondPass else none
    | _ => none
  | .endPass =>
    if l.stopping == .secondPass && l.passIsOver then some { l with stopping := .stopped } else none

/-- Whether every task that was ever spawned is finished. -/
def isQuiet (l : Listener) : Bool := l.pool.tasks.all (· == .finished)

end Listener

end Relay
