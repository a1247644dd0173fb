import Relay.Spawn.Pool

namespace Relay.Spawn

/-- What the foreground does next; tasks are known by a label of their own. -/
inductive Act where
  | spawn (id : String) (thread : Option String)
  | background (id : String) (thread : Option String)
  | await (id : String)
  | release (id : String)
  | permit (granted : Bool)
  | joinAll

inductive Answer where
  | spawned (result : Except Error String)
  | awaited (result : Except Error Unit) (thread : Option String)
  | released
  | blocked
  | nothing

/-- A pool in use: the calls by label, those that are made in the background and not awaited yet,
the labels of tasks that may end, and whether spawning is permitted. -/
structure Session where
  pool : Pool
  labels : List (String × Nat)
  pending : List String
  freed : List String
  permitted : Bool

namespace Session

def start (config : Config) : Session := ⟨.ofConfig config, [], [], [], true⟩

def settle (s : Session) : Session :=
  { s with pool := s.pool.settle s.permitted s.pool.fuel }

def call? (s : Session) (id : String) : Option Nat :=
  (s.labels.reverse.find? (·.1 == id)).map (·.2)

/-- The task with a label, once its call is done. -/
def task? (s : Session) (id : String) : Option Nat :=
  match (s.call? id).bind s.pool.result? with
  | some (.ok task) => some task
  | _ => none

/-- Lets a task that may end give its slot back and finish. -/
def finish (s : Session) (id : String) : Session :=
  match s.task? id with
  | some task =>
    let released := (s.pool.step (.release task)).getD s.pool
    { s with pool := (released.step (.exit task)).getD released }
  | none => s

/-- Lets calls go on, and those tasks end that may. -/
def progress : (fuel : Nat) → Session → Session
  | 0, s => s
  | fuel + 1, s => progress fuel (s.freed.foldl finish s.settle)

def advance (s : Session) : Session := (progress (s.labels.length + 1) s).settle

def arrive (s : Session) (id : String) (thread : Option String) : Session × Nat :=
  let call := s.pool.calls.length
  ({ s with pool := (s.pool.step (.call thread)).getD s.pool, labels := s.labels ++ [(id, call)] }, call)

def threadName (s : Session) (call : Nat) : String := (s.pool.calls[call]?.map (·.thread)).getD ""

/-- Joins the handles that a joining call holds, as far as their threads are finished. -/
def joinHeld (joiner : Nat) : (fuel : Nat) → Pool → Pool
  | 0, p => p
  | fuel + 1, p => ((p.step (.joinNext joiner)).map (joinHeld joiner fuel)).getD p

def act (s : Session) : Act → Answer × Session
  | .spawn id thread =>
    let (arrived, call) := s.arrive id thread
    let after := arrived.advance
    match after.pool.result? call with
    | some (.ok _) => (.spawned (.ok (after.threadName call)), after)
    | some (.error e) => (.spawned (.error e), after)
    | none => (.blocked, s)
  | .background id thread =>
    let (arrived, _) := s.arrive id thread
    (.nothing, { arrived with pending := arrived.pending ++ [id] }.advance)
  | .await id =>
    let after := { s.advance with pending := s.pending.filter (· != id) }
    match after.call? id with
    | none => (.nothing, s)
    | some call =>
      match after.pool.result? call with
      | some (.ok _) => (.awaited (.ok ()) (some (after.threadName call)), after)
      | some (.error e) => (.awaited (.error e) none, after)
      | none => (.blocked, s)
  | .release id =>
    let after := { s with freed := s.freed ++ [id] }.advance
    (if s.pending.isEmpty then .released else .nothing, after)
  | .permit granted => (.nothing, { s with permitted := granted })
  | .joinAll =>
    let taken := (s.pool.step .takeHandles).getD s.pool
    let joiner := taken.joining.length - 1
    (.nothing, { s with pool := joinHeld joiner (taken.tasks.length + 1) taken })

/-- The slots taken; unknown while a background call may take one. -/
def active? (s : Session) : Option Nat := if s.pending.isEmpty then some s.pool.active else none

/-- The labels of the tasks that have run, once all tasks were let go, in order. -/
def finished (s : Session) : List String :=
  let last := { s with freed := s.labels.map Prod.fst }.advance
  let ran := last.labels.filterMap fun (id, _) => (last.task? id).map fun _ => id
  ran.mergeSort fun a b => decide (a ≤ b)

end Session

end Relay.Spawn
