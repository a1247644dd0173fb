import Relay.Spawn.Basic
import Relay.Spawn.Reap

namespace Relay.Spawn

/-- Where a spawning call stands. Once its task is started it goes over the tracked handles: it is
about to look at the handle at a place, or has taken one out and joins it. -/
inductive CallPhase where
  | asking
  | arriving
  | parked
  | notified
  | holding
  | started (task : Nat)
  | reaping (task place : Nat)
  | disposing (task place handle : Nat)
  | done (result : Except Error Nat)

def CallPhase.isParked : CallPhase → Bool
  | .parked => true
  | _ => false

def CallPhase.mayLook : CallPhase → Bool
  | .arriving | .notified => true
  | _ => false

def CallPhase.locks : CallPhase → Bool
  | .reaping .. | .disposing .. => true
  | _ => false

/-- A call that spawns a task on a thread of the given name. -/
structure Call where
  thread : String
  phase : CallPhase

/-- Where a task stands: it runs and holds its slot, it has given the slot back, or its thread is
finished. -/
inductive TaskPhase where
  | running
  | leaving
  | finished
  deriving DecidableEq, Repr

/-- The pool: its settings, the slots taken, the calls and tasks so far, the notifications due, the
number of the next unnamed thread, and the handles that are tracked, those that each joining call
still holds, and those that were joined. A handle is the number of its task. -/
structure Pool where
  config : Config
  active : Nat
  calls : List Call
  tasks : List TaskPhase
  notices : Nat
  nextId : Nat
  tracked : List Nat
  joining : List (List Nat)
  joined : List Nat

inductive Event where
  | call (thread : Option String)
  | ask (call : Nat) (permitted : Bool)
  | look (call : Nat)
  | create (call : Nat) (failure : Option String)
  | track (call : Nat)
  | lock (call : Nat)
  | inspect (call : Nat)
  | dispose (call : Nat)
  | release (task : Nat)
  | exit (task : Nat)
  | notice (woken : Option Nat)
  | leave (call : Nat)
  | takeHandles
  | joinNext (joiner : Nat)

namespace Pool

def ofConfig (config : Config) : Pool := ⟨config, 0, [], [], 0, 0, [], [], []⟩

def setCall (p : Pool) (i : Nat) (phase : CallPhase) : Pool :=
  { p with calls := p.calls.modify i fun c => { c with phase } }

def setTask (p : Pool) (i : Nat) (phase : TaskPhase) : Pool :=
  { p with tasks := p.tasks.set i phase }

def phase? (p : Pool) (i : Nat) : Option CallPhase := p.calls[i]?.map (·.phase)

def isFinished (p : Pool) (task : Nat) : Bool := p.tasks[task]? == some .finished

/-- Whether a call goes over the tracked handles. -/
def isLocked (p : Pool) : Bool := p.calls.any (·.phase.locks)

def isSaturated (p : Pool) : Bool := p.config.limit.any (· ≤ p.active)

def acquire (p : Pool) (i : Nat) : Pool :=
  match p.config.limit, p.isSaturated with
  | some limit, true =>
    match p.config.saturation with
    | .reject => p.setCall i (.done (.error (.saturated limit)))
    | .block => p.setCall i .parked
  | _, _ => { p.setCall i .holding with active := p.active + 1 }

/-- Gives a slot back, and leaves a notification for a waiting call. -/
def freeSlot (p : Pool) : Pool := { p with active := p.active - 1, notices := p.notices + 1 }

/-- Notifies the chosen one of the waiting calls; nobody, if there is none. -/
def wake (p : Pool) : Option Nat → Option Pool
  | some i => if (p.phase? i).any (·.isParked) then some (p.setCall i .notified) else none
  | none => if p.calls.any (·.phase.isParked) then none else some p

/-- The state after an event; none when the event cannot happen. A call locks the tracked handles
and goes over them one by one while tasks finish; `track` is such a pass that nothing interrupts.
The call that a notification reaches, and whether a permission is granted and a thread can be
created, are part of the event. -/
def step (p : Pool) : Event → Option Pool
  | .call (some thread) => some { p with calls := p.calls ++ [⟨thread, .asking⟩] }
  | .call none =>
    some { p with
      calls := p.calls ++ [⟨p.config.threadName p.nextId, .asking⟩], nextId := p.nextId + 1 }
  | .ask i permitted =>
    match p.phase? i with
    | some .asking =>
      some (p.setCall i (if permitted then .arriving else .done (.error .notPermitted)))
    | _ => none
  | .look i => if (p.phase? i).any (·.mayLook) then some (p.acquire i) else none
  | .create i failure =>
    match p.phase? i, failure with
    | some .holding, none =>
      some { p.setCall i (.started p.tasks.length) with tasks := p.tasks ++ [.running] }
    | some .holding, some cause => some (p.setCall i (.done (.error (.noThread cause)))).freeSlot
    | _, _ => none
  | .track i =>
    match p.phase? i with
    | some (.started task) =>
      if p.isLocked then none
      else
        let (reaped, kept) := reap p.isFinished p.tracked
        some { p.setCall i (.done (.ok task)) with
          tracked := kept ++ [task], joined := p.joined ++ reaped }
    | _ => none
  | .lock i =>
    match p.phase? i with
    | some (.started task) => if p.isLocked then none else some (p.setCall i (.reaping task 0))
    | _ => none
  | .inspect i =>
    match p.phase? i with
    | some (.reaping task place) =>
      match p.tracked[place]? with
      | some handle =>
        if p.isFinished handle then
          some { p.setCall i (.disposing task place handle) with tracked := swapRemove p.tracked place }
        else some (p.setCall i (.reaping task (place + 1)))
      | none => some { p.setCall i (.done (.ok task)) with tracked := p.tracked ++ [task] }
    | _ => none
  | .dispose i =>
    match p.phase? i with
    | some (.disposing task place handle) =>
      if p.isFinished handle then
        some { p.setCall i (.reaping task place) with joined := p.joined ++ [handle] }
      else none
    | _ => none
  | .release task =>
    if p.tasks[task]? == some .running then some (p.setTask task .leaving).freeSlot else none
  | .exit task =>
    if p.tasks[task]? == some .leaving then some (p.setTask task .finished) else none
  | .notice woken =>
    match p.notices with
    | 0 => none
    | n + 1 => { p with notices := n }.wake woken
  | .leave i => if (p.phase? i).any (·.isParked) then some (p.setCall i .arriving) else none
  | .takeHandles =>
    if p.isLocked then none else some { p with tracked := [], joining := p.joining ++ [p.tracked] }
  | .joinNext joiner =>
    match p.joining[joiner]? with
    | some (task :: rest) =>
      if p.isFinished task then
        some { p with joining := p.joining.set joiner rest, joined := p.joined ++ [task] }
      else none
    | _ => none

def first? (p : Pool) (condition : CallPhase → Bool) : Option Nat :=
  (List.range p.calls.length).find? fun i => (p.phase? i).any condition

/-- The next event when calls go on in the order they were made, threads can always be created, and
every task goes on running; `permitted` is the answer to requests for permission. -/
def next? (p : Pool) (permitted : Bool) : Option Event :=
  let find (condition : CallPhase → Bool) (event : Nat → Event) := (p.first? condition).map event
  if p.notices ≠ 0 then some (.notice (p.first? (·.isParked)))
  else
    (find (fun | .asking => true | _ => false) (.ask · permitted)) <|>
    (find (·.mayLook) .look) <|>
    (find (fun | .holding => true | _ => false) (.create · none)) <|>
    (find (fun | .started _ => true | _ => false) .track)

/-- Lets all calls go on until they are done or wait for a slot. -/
def settle (permitted : Bool) : (fuel : Nat) → Pool → Pool
  | 0, p => p
  | fuel + 1, p =>
    match p.next? permitted with
    | none => p
    | some event => ((p.step event).map (settle permitted fuel)).getD p

def fuel (p : Pool) : Nat := 8 * (p.calls.length + p.notices + 1)

def result? (p : Pool) (i : Nat) : Option (Except Error Nat) :=
  match p.phase? i with
  | some (.done result) => some result
  | _ => none

end Pool

end Relay.Spawn
