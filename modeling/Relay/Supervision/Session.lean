import Relay.Capability
import Relay.Supervision.Forest

namespace Relay.Supervision

/-- A task made for a session: the ways its first runs end by themselves, and whether it ends when
it is told to. -/
structure Agent where
  name : String
  auto : List Supervisor.Ending
  obedient : Bool

inductive ChildSpec where
  | task (agent : Agent)
  | supervisor (number : Nat)

/-- How a supervisor is put together: from single children, or at once from workers, from workers
with supervised channels, or from other supervisors. -/
inductive Assembly where
  | single
  | pool
  | channels (count : Nat)
  | tree
  deriving DecidableEq

structure Spec where
  id : String
  strategy : RestartStrategy
  assembly : Assembly
  children : List ChildSpec
  eventCapacity : Nat
  sharesContext : Bool
  dynamic : Bool
  escalates : Bool
  init : List (Option Failure)

structure Condition where
  child : Option Nat
  state : Option ChildState
  generation : Option Nat
  status : Option Status

inductive Act where
  | register (child : ChildSpec)
  | depend (child on : Nat)
  | start
  | stop
  | restart (child : Nat)
  | report (child : Nat) (failure : Failure)
  | exit (child : Nat) (ending : Supervisor.Ending)
  | advance (nanos : Nat)
  | rewind (nanos : Nat)
  | permit (threads : Option Nat)
  | channel
  | strategy (strategy : RestartStrategy)
  | dynamic (enabled : Bool)
  | escalate (enabled : Bool)
  | waitStatus (status : Status)
  | goWait (status : Status)
  | join
  | await (condition : Condition)
  | child (child : Nat)
  | events
  | look
  | debug
  | closeEvents
  | drop

/-- What became of telling a run to end. -/
inductive ExitAnswer where
  | handled
  | ignored
  | notRunning
  | noChild

inductive Answer where
  | done (result : Except Error Unit)
  | registered (result : Except Error Nat)
  | exited (answer : ExitAnswer)
  | clock (nanos : Nat)
  | text (text : String)
  | flag (value : Bool)
  | child (info : Option (Nat × Child))
  | events (events : List Event)
  | look (supervisor : Option Supervisor)
  | nothing

/-- The supervisors of a session, the tasks of their children, which of them share the context, the
threads still permitted, and the supervisors whose handle was dropped. -/
structure Session where
  forest : Forest
  agents : List (List (Option Agent))
  shared : List Bool
  context : RuntimeContext
  permits : Option Nat
  dropped : List Nat
  waiting : Option (Nat × Nat)

namespace Session

def empty : Session := ⟨⟨[], []⟩, [], [], .initial, none, [], none⟩

def get? (s : Session) (p : Nat) : Option Supervisor := s.forest.get? p

def sharesContext (s : Session) (p : Nat) : Bool := s.shared[p]?.getD true

/-- How long a thread waits for a status in the background: until it is joined. The clock that it looks
at is at 0 until then. -/
def patience : Duration := ⟨1⟩

/-- The clock of a supervisor; one with a context of its own sees no time pass. -/
def now (s : Session) (p : Nat) : Nat := if s.sharesContext p then s.context.now else 0

/-- The denials for an operation of a supervisor that starts children in the given order. -/
def denials (s : Session) (p : Nat) (order : List Nat) : Supervisor.Denials := fun i =>
  match s.permits with
  | some n => if s.sharesContext p && n ≤ order.idxOf i then some .notPermitted else none
  | none => none

def failureDenials (s : Session) (p i : Nat) : Supervisor.Denials :=
  s.denials p (((s.get? p).map (·.targets i)).getD [])

def startDenials (s : Session) (p : Nat) : Supervisor.Denials :=
  s.denials p (List.range (((s.get? p).map (·.children.length)).getD 0))

def threads (s : Session) (f : Forest) : Nat :=
  ((List.range f.supervisors.length).map fun p =>
    if s.sharesContext p then ((f.get? p).map (·.instances.length)).getD 0 else 0).foldl (· + ·) 0

/-- Goes on with other supervisors, and counts the threads created against the permission. -/
def withForest (s : Session) (forest : Forest) : Session :=
  { s with forest, permits := s.permits.map (· - (s.threads forest - s.threads s.forest)) }

def setSupervisor (s : Session) (p : Nat) (supervisor : Supervisor) : Session :=
  s.withForest (s.forest.set p supervisor)

def agent? (s : Session) (p i : Nat) : Option Agent := do (← (← s.agents[p]?)[i]?)

/-- The number of runs of a child before the instance with a number. -/
def earlierRuns (supervisor : Supervisor) (i k : Nat) : Nat :=
  ((supervisor.instances.take k).filter (·.child == i)).length

/-- How a live run of a task ends by itself: as it was told beforehand, or because it was signalled. -/
def ending? (s : Session) (p k : Nat) (supervisor : Supervisor) (inst : Instance) :
    Option Supervisor.Ending := do
  let agent ← s.agent? p inst.child
  match agent.auto[earlierRuns supervisor inst.child k]? with
  | some ending => some ending
  | none => if inst.signalled then some .returned else none

/-- Whether an instance that runs the supervisor `n` learns of its signal only when it looks again
after some time, since nothing notifies it. -/
def polls (n : Supervisor) (inst : Instance) : Bool :=
  inst.signalled &&
    match inst.activity with
    | .waiting => n.status.isActive
    | .watching => !(n.escalates && n.status == .degraded)
    | _ => false

/-- The next step of a live instance, if that is one for which some time has to pass, or one that is
taken at once. -/
def instanceStep (s : Session) (late : Bool) (p k : Nat) (supervisor : Supervisor)
    (inst : Instance) : Option Session :=
  if !inst.live then none
  else
    match Forest.nestedOf supervisor inst with
    | some number =>
      let denied : Forest.Denials := fun q =>
        if q == number then s.startDenials number else s.failureDenials p inst.child
      if (s.get? number).any (polls · inst) == late then
        (s.forest.nestedStep p k (s.now p) denied).map s.withForest
      else none
    | none =>
      if late then none
      else
        (s.ending? p k supervisor inst).map fun ending =>
          s.withForest (s.forest.exit p k ending.result (s.now p) fun _ =>
            s.failureDenials p inst.child)

def instancesStep (s : Session) (late : Bool) (p : Nat) : Option Session := do
  let supervisor ← s.get? p
  (List.range supervisor.instances.length).findSome? fun k =>
    supervisor.instances[k]?.bind (s.instanceStep late p k supervisor)

/-- The next step of a supervisor that is taken at once: of one of its instances, of a call of stop,
or of a thread that was notified. -/
def supervisorStep (s : Session) (p : Nat) : Option Session := do
  let supervisor ← s.get? p
  s.instancesStep false p <|>
    ((List.range supervisor.stoppers.length).findSome? fun j =>
      (s.forest.stopStep p j).map s.withForest) <|>
    ((List.range supervisor.waiters.length).findSome? fun w =>
      if supervisor.waiters[w]?.any (·.phase == .notified) then
        some (s.setSupervisor p (supervisor.waitLook w 0))
      else none)

/-- Gives up supervisors that nobody needs any more. -/
def forgetStep (s : Session) : Option Session :=
  (s.dropped.find? fun p => !s.forest.isGone p && !s.forest.isNeeded p).map fun p =>
    { s with forest := s.forest.forget p }

/-- The next thing that happens without the foreground. No time passes before all has happened that
needs none. -/
def step? (s : Session) : Option Session :=
  let numbers := List.range s.forest.supervisors.length
  numbers.findSome? s.supervisorStep <|> numbers.findSome? (s.instancesStep true) <|> s.forgetStep

/-- Lets everything go on until nothing moves. -/
def settle : (fuel : Nat) → Session → Session
  | 0, s => s
  | fuel + 1, s =>
    match s.step? with
    | some next => settle fuel next
    | none => s

/-- Enough steps: every run that ends by itself may start all children again. -/
def fuel (s : Session) : Nat :=
  let total (counts : List Nat) := counts.foldl (· + ·) 0
  let autos := total (s.agents.flatten.map fun a => (a.map (·.auto.length)).getD 0)
  let children := total (s.forest.supervisors.map (·.children.length))
  let instances := total (s.forest.supervisors.map (·.instances.length))
  16 * (autos + instances + 8) * (children + 4)

def advance (s : Session) : Session := settle s.fuel s

def taskOf (s : Session) : ChildSpec → Task × Option Agent
  | .task agent => (⟨agent.name, none⟩, some agent)
  | .supervisor number => (((s.get? number).map (·.asTask number)).getD ⟨"", some number⟩, none)

def register (s : Session) (p : Nat) (supervisor : Supervisor) (child : ChildSpec) :
    Except Error Nat × Session :=
  let (task, agent) := s.taskOf child
  let (result, after) := supervisor.register task (s.denials p [supervisor.children.length])
  let grown := after.children.length != supervisor.children.length
  let agents := if grown then s.agents.modify p (· ++ [agent]) else s.agents
  (result, { s with agents }.setSupervisor p after)

def registerAll (s : Session) (p : Nat) : List ChildSpec → List (Except Error Nat) × Session
  | [] => ([], s)
  | child :: rest =>
    match s.get? p with
    | none => ([], s)
    | some supervisor =>
      let (result, s) := s.register p supervisor child
      let (results, s) := s.registerAll p rest
      (result :: results, s)

def firstError? : List (Except Error Nat) → Option Error
  | [] => none
  | .error e :: _ => some e
  | .ok _ :: rest => firstError? rest

def eventChannel (capacity : Nat) : Channel Event := ⟨capacity, .plain, [], false⟩

/-- Builds a supervisor. One that is built from its children at once does not exist when one of them
is refused. -/
def build (s : Session) (spec : Spec) : Except Error (List (Except Error Nat) × Session) := do
  let created ← Supervisor.create spec.id
  let count := match spec.assembly with
    | .channels count => count
    | _ => 0
  let supervisor : Supervisor := { created with
    strategy := spec.strategy
    dynamic := spec.dynamic
    escalates := spec.escalates
    init := spec.init
    events := some (eventChannel spec.eventCapacity)
    channels := List.replicate count false
    closers := List.range count }
  let p := s.forest.supervisors.length
  let added := { s with
    forest := { s.forest with supervisors := s.forest.supervisors ++ [supervisor] }
    agents := s.agents ++ [[]]
    shared := s.shared ++ [spec.sharesContext] }
  let (results, after) := added.registerAll p spec.children
  if spec.assembly = .single then return (results, after)
  else
    match firstError? results with
    | some e => throw e
    | none => return ([], after)

def childHolds (condition : Condition) (c : Child) : Bool :=
  condition.state.all (· == c.state) && condition.generation.all (· ≤ c.generation)

def holds (condition : Condition) (supervisor : Supervisor) : Bool :=
  condition.status.all (· == supervisor.status) &&
    match condition.child with
    | some i => supervisor.children[i]?.any (childHolds condition)
    | none => true

/-- The run of a child that can be told to end: its last one, while that has not exited. -/
def currentRun? (s : Session) (p i : Nat) (supervisor : Supervisor) : Option Nat :=
  let last := ((List.range supervisor.instances.length).filter fun k =>
    supervisor.instances[k]?.any (·.child == i)).getLast?
  match s.agent? p i, last with
  | some agent, some k =>
    if agent.obedient && supervisor.instances[k]?.any (·.live) then some k else none
  | _, _ => none

/-- Tells the current run of a child to end. -/
def exit (s : Session) (p i : Nat) (supervisor : Supervisor) (ending : Supervisor.Ending) :
    ExitAnswer × Session :=
  match supervisor.children[i]? with
  | none => (.noChild, s)
  | some c =>
    if c.state != .running then (.notRunning, s)
    else
      match s.currentRun? p i supervisor with
      | none => (.ignored, s)
      | some k =>
        let handled := supervisor.instances[k]?.any supervisor.accepts
        let after := s.withForest
          (s.forest.exit p k ending.result (s.now p) fun _ => s.failureDenials p i)
        (if handled then .handled else .ignored, after.advance)

def takeEvents (s : Session) (p : Nat) : List Event × Session :=
  match s.get? p with
  | some supervisor =>
    ((supervisor.events.map (·.buffer)).getD [],
      { s with forest := s.forest.set p { supervisor with
          events := supervisor.events.map fun c => { c with buffer := [] } } })
  | none => ([], s)

/-- A supervisor as the foreground sees it, while it holds a handle. -/
def view? (s : Session) (p : Nat) : Option Supervisor :=
  if s.dropped.contains p then none else s.get? p

/-- Changes a supervisor without starting anything. -/
def update (s : Session) (p : Nat) (f : Supervisor → Supervisor) : Session :=
  match s.get? p with
  | some supervisor => s.setSupervisor p (f supervisor)
  | none => s

def actOn (s : Session) (p : Nat) (supervisor : Supervisor) : Act → Answer × Session
  | .register child =>
    let (result, after) := s.register p supervisor child
    (.registered result, after.advance)
  | .depend child on =>
    let (result, after) := supervisor.addDependency child on
    (.done result, s.setSupervisor p after)
  | .start =>
    let (result, after) := supervisor.start (s.startDenials p)
    (.done result, (s.setSupervisor p after).advance)
  | .stop =>
    let (result, after) := supervisor.beginStop
    (.done (result.map fun _ => ()), (s.setSupervisor p after).advance)
  | .restart child =>
    let (result, after) := supervisor.restartChild child (s.denials p [child])
    (.done result, (s.setSupervisor p after).advance)
  | .report child failure =>
    let (result, after) := supervisor.reportFailure child failure (s.now p) (s.failureDenials p child)
    (.done result, (s.setSupervisor p after).advance)
  | .exit child ending =>
    let (answer, after) := s.exit p child supervisor ending
    (.exited answer, after)
  | .advance nanos =>
    let context := s.context.advance nanos
    (.clock context.now, { s with context })
  | .rewind nanos =>
    let context := s.context.rewind nanos
    (.clock context.now, { s with context })
  | .permit permits => (.nothing, { s with permits })
  | .channel => (.nothing, s.update p (·.superviseChannel))
  | .strategy strategy => (.text strategy.debugText, s.update p (·.withStrategy strategy))
  | .dynamic enabled => (.nothing, s.update p fun x => { x with dynamic := enabled })
  | .escalate enabled => (.nothing, (s.update p fun x => { x with escalates := enabled }).advance)
  | .waitStatus status => (.flag (supervisor.status == status), s)
  | .goWait status =>
    (.nothing, { s.setSupervisor p (supervisor.wait status patience 0 0) with
      waiting := some (p, supervisor.waiters.length) })
  | .join =>
    match s.waiting with
    | none => (.nothing, s)
    | some (q, w) =>
      let after := s.update q (·.waitLook w patience.nanos)
      (.flag (((after.get? q).bind fun x => x.waiters[w]?).any (·.phase == .done true)), after)
  | .await condition => (.flag (holds condition supervisor), s)
  | .child child => (.child (supervisor.children[child]?.map fun c => (child, c)), s)
  | .events =>
    let (events, after) := s.takeEvents p
    (.events events, after)
  | .look => (.look (s.view? p), s)
  | .debug => (.text supervisor.debugText, s)
  | .closeEvents => (.nothing, s.update p fun x => { x with events := x.events.map (·.close) })
  | .drop => (.nothing, { s with dropped := p :: s.dropped }.advance)

def act (s : Session) (p : Nat) (a : Act) : Answer × Session :=
  match s.get? p with
  | some supervisor => s.actOn p supervisor a
  | none => (.nothing, s)

/-- Drops all handles, and lets everything come to its end. -/
def finish (s : Session) : Session :=
  { s with dropped := List.range s.forest.supervisors.length }.advance

def runs (s : Session) : List (List Nat) :=
  (List.range s.forest.supervisors.length).map fun p =>
    match s.get? p with
    | some supervisor =>
      ((List.range supervisor.children.length).filter fun i => (s.agent? p i).isSome).map fun i =>
        earlierRuns supervisor i supervisor.instances.length
    | none => []

def counters (s : Session) : List (String × Nat) :=
  let ids := (s.forest.supervisors.map (·.id.text)).eraseDups
  let total (id : String) (count : Supervisor → Nat) :=
    ((s.forest.supervisors.filter (·.id.text == id)).map count).foldl (· + ·) 0
  let entry (name id : String) (count : Supervisor → Nat) :=
    (name ++ "\x7bsupervisor_id=" ++ id ++ "\x7d", total id count)
  let all := ids.flatMap fun id =>
    [entry "strand_supervisor_child_failures_total" id (·.failures),
      entry "strand_supervisor_restarts_total" id (·.restarts)]
  all.filter fun (_, n) => n ≠ 0

end Session

end Relay.Supervision
