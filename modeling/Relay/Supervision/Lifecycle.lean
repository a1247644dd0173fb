import Relay.Supervision.Children

namespace Relay.Supervision

/-- A thread that waits for a status looks at it: it is done when the status is reached or its time is
over, and parks otherwise. -/
def Waiter.look (waiter : Waiter) (status : Status) (now : Nat) : Waiter :=
  match waiter.phase with
  | .done _ => waiter
  | _ =>
    if status = waiter.wanted then { waiter with phase := .done true }
    else if waiter.deadline.any (· ≤ now) then { waiter with phase := .done false }
    else { waiter with phase := .parked }

end Relay.Supervision

namespace Relay.Supervisor

open Supervision

/-- Registers a child; a running supervisor starts it at once, if it takes children then. -/
def register (s : Supervisor) (task : Task) (denied : Denials) : Except Error Nat × Supervisor :=
  match Name.scoped? s.id task.name with
  | none => (.error (.invalidName task.name), s)
  | some name =>
    if s.status.isActive && !s.dynamic then (.error .registrationClosed, s)
    else
      let i := s.children.length
      let added := { s with
        children := s.children ++ [.fresh name task], dependencies := s.dependencies.grow }
      if s.status.isActive then
        match added.spawnChild i denied with
        | (.ok (), after) => (.ok i, after.emitStarted i)
        | (.error e, after) => (.error e, after)
      else (.ok i, added)

def addDependency (s : Supervisor) (child on : Nat) : Except Error Unit × Supervisor :=
  let (answer, dependencies) := s.dependencies.add child on
  let s := { s with dependencies }
  match answer with
  | .ok () => (.ok (), s)
  | .error .outOfBounds => (.error (.invalidChild (max child on)), s)
  | .error .cycle => (.error (.dependencyCycle child on), s)

/-- Supervises a channel: the next stop closes it. -/
def superviseChannel (s : Supervisor) : Supervisor :=
  { s with channels := s.channels ++ [false], closers := s.closers ++ [s.channels.length] }

/-- Starts the children from `i` on, `n` of them, until one cannot be started. -/
def startChildren (denied : Denials) : (n i : Nat) → Supervisor → Except Error Unit × Supervisor
  | 0, _, s => (.ok (), s)
  | n + 1, i, s =>
    match s.spawnChild i denied with
    | (.error e, after) => (.error e, after)
    | (.ok (), after) => startChildren denied n (i + 1) (after.emitStarted i)

/-- Undoes a start that failed: all instances are signalled, and no child has been started. -/
def abandonStart (s : Supervisor) : Supervisor :=
  let dropped := s.dropHandles
  let idle : Supervisor := { dropped with
    children := dropped.children.map fun c => { c with state := .idle }
    status := .stopped }
  idle.notifyAll

/-- The first step of a start that its hook allows: a fresh budget, and no child started or failed. -/
def prepareStart (s : Supervisor) : Supervisor :=
  { s with
    budget := .fresh
    children := s.children.map fun c => { c with state := .idle, failed := false }
    status := .running }

/-- Runs the hook and starts every child. -/
def start (s : Supervisor) (denied : Denials) : Except Error Unit × Supervisor :=
  if s.status.isActive then (.error .alreadyStarted, s)
  else
    let hooked := { s with init := s.init.tail }
    match s.init.head? with
    | some (some failure) => (.error (.initFailed failure), hooked)
    | _ =>
      match startChildren denied s.children.length 0 hooked.prepareStart with
      | (.ok (), after) => (.ok (), after.notifyAll)
      | (.error e, after) => (.error e, after.abandonStart)

/-- What a call of stop has to do after its first half: nothing, or the steps of a stopper. -/
inductive Stopping where
  | finished
  | continues (stopper : Nat)
  deriving DecidableEq, Repr

/-- The first half of a stop sets the status and gives up all handles at once. The second, in the
steps of a stopper, joins the threads, closes channels and reports; other operations may come in
between. -/
def beginStop (s : Supervisor) : Except Error Stopping × Supervisor :=
  match s.status with
  | .created => (.error .notRunning, s)
  | .stopped => (.ok .finished, s)
  | .running | .degraded =>
    let dropped := s.dropHandles
    let stopped : Supervisor := { dropped with
      status := .stopped
      children := dropped.children.map fun c =>
        if c.state = .running then { c with state := .stopped } else c
      closers := []
      stoppers := dropped.stoppers ++ [⟨.taking, dropped.closers⟩] }
    (.ok (.continues s.stoppers.length), stopped.notifyAll)

def setStopper (s : Supervisor) (j : Nat) (phase : StopPhase) : Supervisor :=
  { s with stoppers := s.stoppers.modify j fun st => { st with phase } }

/-- The next step of a stop; none while a thread that it joins has not finished, or at its end. -/
def stopStep (s : Supervisor) (j : Nat) : Option Supervisor :=
  match s.stoppers[j]? with
  | none => none
  | some stopper =>
    match stopper.phase with
    | .taking => some ({ s with tracked := [] }.setStopper j (.joining s.tracked))
    | .joining handles =>
      if handles.all s.hasExited then
        let channels := s.channels.mapIdx fun i closed => closed || stopper.closers.contains i
        some ({ s with channels }.setStopper j .closing)
      else none
    | .closing => some ((s.emit .stopped).setStopper j .done)
    | .done => none

def stopReturned (s : Supervisor) (j : Nat) : Bool := s.stoppers[j]?.any (·.phase = .done)

/-- The end of a time that begins at `asked`; none when no clock will show it. -/
def deadline? (asked : Nat) (timeout : Duration) : Option Nat :=
  let due : Duration := ⟨asked + timeout.nanos⟩
  if due.seconds < 2 ^ 63 then some due.nanos else none

/-- A thread begins to wait for a status, and looks at it at once; it was told at `asked` how long to
wait. -/
def wait (s : Supervisor) (wanted : Status) (timeout : Duration) (asked now : Nat) : Supervisor :=
  let waiter : Waiter := ⟨wanted, deadline? asked timeout, .notified⟩
  { s with waiters := s.waiters ++ [waiter.look s.status now] }

/-- A waiting thread looks at the status again: it was notified, or leaves because its time is over or for
no reason. -/
def waitLook (s : Supervisor) (w now : Nat) : Supervisor :=
  { s with waiters := s.waiters.modify w (·.look s.status now) }

def debugText (s : Supervisor) : String :=
  "Supervisor \x7b id: " ++ Text.quoted s.id.text ++ ", status: " ++ s.status.label ++
    ", children: " ++ toString s.children.length ++ " \x7d"

end Relay.Supervisor
