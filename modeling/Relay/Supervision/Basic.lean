import Relay.Channel.Basic
import Relay.Failure
import Relay.Spawn.Basic
import Relay.Spawn.Reap
import Relay.Supervision.Dependency
import Relay.Supervision.Name
import Relay.Supervision.Strategy
import Relay.Text.Quoted

namespace Relay.Supervision

inductive Status where
  | created
  | running
  | degraded
  | stopped
  deriving DecidableEq, Repr, Inhabited

namespace Status

def word : Status → String
  | .created => "created"
  | .running => "running"
  | .degraded => "degraded"
  | .stopped => "stopped"

instance : Worded Status := ⟨[.created, .running, .degraded, .stopped], word⟩

def label (s : Status) : String := camelCase s.word

/-- Whether children are meant to run. -/
def isActive : Status → Bool
  | .running | .degraded => true
  | .created | .stopped => false

end Status

inductive ChildState where
  | idle
  | running
  | completed
  | failed
  | stopped
  deriving DecidableEq, Repr, Inhabited

namespace ChildState

def word : ChildState → String
  | .idle => "idle"
  | .running => "running"
  | .completed => "completed"
  | .failed => "failed"
  | .stopped => "stopped"

instance : Worded ChildState := ⟨[.idle, .running, .completed, .failed, .stopped], word⟩

def label (s : ChildState) : String := camelCase s.word

end ChildState

inductive Error where
  | invalidName (name : String)
  | registrationClosed
  | invalidChild (index : Nat)
  | dependencyCycle (child on : Nat)
  | alreadyStarted
  | notRunning
  | initFailed (source : Failure)
  | spawnFailed (child : String) (source : Spawn.Error)
  deriving DecidableEq, Repr

namespace Error

def message : Error → String
  | .invalidName name => "Invalid name for supervisor or child: '" ++ name ++ "'"
  | .registrationClosed => "Supervisor is running and dynamic children are disabled."
  | .invalidChild index => s!"No child registered at index {index}."
  | .dependencyCycle child on =>
    s!"Child {child} depending on child {on} would create a dependency cycle."
  | .alreadyStarted => "Supervisor is already running."
  | .notRunning => "Supervisor is not running."
  | .initFailed source => "Supervisor failed to initialize: " ++ source.message
  | .spawnFailed child source => "Failed to spawn child '" ++ child ++ "': " ++ source.message

def failure (e : Error) : Failure :=
  ⟨e.message,
    match e with
    | .initFailed source => source.chain
    | .spawnFailed _ source => [source.message]
    | _ => []⟩

end Error

inductive Event where
  | started (child : Nat) (name : String) (generation : Nat)
  | failed (child : Nat) (name error : String)
  | restarted (child : Nat) (name : String) (generation : Nat)
  | limitExceeded (child : Nat) (name : String)
  | stopped
  deriving DecidableEq, Repr

/-- What a child runs: a task of its own, or the supervisor with a number. -/
structure Task where
  name : String
  nested : Option Nat
  deriving DecidableEq, Repr, Inhabited

def Task.debugText (t : Task) : String := "TaskFn \x7b name: " ++ Text.quoted t.name ++ ", .. \x7d"

/-- A registered child; `handle` is the instance whose shutdown handle is held. -/
structure Child where
  name : Name
  task : Task
  state : ChildState
  failed : Bool
  generation : Nat
  restarts : Nat
  handle : Option Nat
  deriving DecidableEq, Repr, Inhabited

def Child.fresh (name : Name) (task : Task) : Child := ⟨name, task, .idle, false, 0, 0, none⟩

/-- What an instance is doing. One that runs a nested supervisor waits until that is not active,
checks its signal, starts the supervisor, watches it, and stops it again. -/
inductive Activity where
  | working
  | waiting
  | checking
  | starting
  | watching
  | stopping (escalated : Bool)
  | joining (escalated : Bool) (stopper : Nat)
  deriving DecidableEq, Repr, Inhabited

def Task.firstActivity (t : Task) : Activity := if t.nested.isSome then .waiting else .working

/-- One start of a child: its generation, whether it was signalled to shut down, and whether it has
not exited yet. -/
structure Instance where
  child : Nat
  generation : Nat
  signalled : Bool
  live : Bool
  activity : Activity
  deriving DecidableEq, Repr, Inhabited

/-- A call of stop after its first half: it has to take the handles of threads, then to join them,
then to close channels and to report. -/
inductive StopPhase where
  | taking
  | joining (handles : List Nat)
  | closing
  | done
  deriving DecidableEq, Repr, Inhabited

/-- A call of stop, and the channels it took to close. -/
structure Stopper where
  phase : StopPhase
  closers : List Nat
  deriving DecidableEq, Repr, Inhabited

/-- Where a thread stands that waits for a status. -/
inductive WaitPhase where
  | parked
  | notified
  | done (reached : Bool)
  deriving DecidableEq, Repr, Inhabited

/-- A thread that waits for a status, for ever if it has no deadline. -/
structure Waiter where
  wanted : Status
  deadline : Option Nat
  phase : WaitPhase
  deriving DecidableEq, Repr, Inhabited

end Relay.Supervision

namespace Relay

open Supervision

/-- A supervisor. `instances` are all that were ever started, `tracked` those whose threads were not
joined yet, `channels` the supervised channels with a mark for closed ones, and `closers` those that
the next stop closes. -/
structure Supervisor where
  id : Name
  status : Status
  strategy : RestartStrategy
  budget : RestartBudget
  dynamic : Bool
  escalates : Bool
  init : List (Option Failure)
  events : Option (Channel Event)
  children : List Child
  dependencies : Dependencies
  instances : List Instance
  tracked : List Nat
  channels : List Bool
  closers : List Nat
  stoppers : List Stopper
  waiters : List Waiter
  failures : Nat
  restarts : Nat

end Relay
