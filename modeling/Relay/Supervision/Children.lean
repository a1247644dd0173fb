import Relay.Supervision.Basic

namespace Relay.Supervisor

open Supervision

/-- The children whose threads cannot be created, and why; each operation starts a child at most
once. -/
abbrev Denials := Nat → Option Spawn.Error

def noDenials : Denials := fun _ => none

def create (name : String) : Except Error Supervisor :=
  match Name.root? name with
  | none => .error (.invalidName name)
  | some id => .ok {
      id, status := .created, strategy := .standard, budget := .fresh, dynamic := false,
      escalates := false, init := [], events := none, children := [], dependencies := .empty,
      instances := [], tracked := [], channels := [], closers := [], stoppers := [], waiters := [],
      failures := 0, restarts := 0 }

/-- Replaces the restart strategy, which forgets the failures counted so far. -/
def withStrategy (s : Supervisor) (strategy : RestartStrategy) : Supervisor :=
  { s with strategy, budget := .fresh }

def modifyChild (s : Supervisor) (i : Nat) (f : Child → Child) : Supervisor :=
  { s with children := s.children.modify i f }

def childName (s : Supervisor) (i : Nat) : String := ((s.children[i]?.map (·.name.text)).getD "")

/-- Reports an event; it is lost when there is no channel for it, or no room. -/
def emit (s : Supervisor) (event : Event) : Supervisor :=
  { s with events := s.events.map fun channel => (channel.trySend event).2 }

def notifyAll (s : Supervisor) : Supervisor :=
  { s with waiters := s.waiters.map fun w => if w.phase = .parked then { w with phase := .notified } else w }

def signal (s : Supervisor) (k : Nat) : Supervisor :=
  { s with instances := s.instances.modify k fun inst => { inst with signalled := true } }

/-- Gives up the handle of a child. -/
def dropHandle (s : Supervisor) (i : Nat) : Supervisor :=
  match s.children[i]?.bind (·.handle) with
  | some k => (s.signal k).modifyChild i fun c => { c with handle := none }
  | none => s

def dropHandles (s : Supervisor) : Supervisor :=
  (List.range s.children.length).foldl dropHandle s

def hasExited (s : Supervisor) (k : Nat) : Bool := s.instances[k]?.any (!·.live)

/-- Starts an instance of a child, which signals the one before it. The generation is raised before
the attempt, and stays so if the thread cannot be created. -/
def spawnChild (s : Supervisor) (i : Nat) (denied : Denials) : Except Error Unit × Supervisor :=
  match s.children[i]? with
  | none => (.error (.invalidChild i), s)
  | some child =>
    let generation := child.generation + 1
    let raised := s.modifyChild i fun c => { c with generation }
    match denied i with
    | some e => (.error (.spawnFailed child.name.text e), raised)
    | none =>
      let k := s.instances.length
      let superseded := raised.dropHandle i
      let fresh : Instance := ⟨i, generation, false, true, child.task.firstActivity⟩
      let tracked := (Spawn.reap s.hasExited s.tracked).2 ++ [k]
      let spawned := { superseded with instances := superseded.instances ++ [fresh], tracked }
      (.ok (), spawned.modifyChild i fun c =>
        { c with handle := some k, state := .running, failed := false })

def emitStarted (s : Supervisor) (i : Nat) : Supervisor :=
  match s.children[i]? with
  | some child => s.emit (.started i child.name.text child.generation)
  | none => s

/-- Starts a further instance of a child, and counts and reports it. -/
def restart (s : Supervisor) (i : Nat) (denied : Denials) : Except Error Unit × Supervisor :=
  match s.spawnChild i denied with
  | (.error e, after) => (.error e, after)
  | (.ok (), after) =>
    let counted := after.modifyChild i fun c => { c with restarts := c.restarts + 1 }
    let generation := (counted.children[i]?.map (·.generation)).getD 0
    (.ok (), { counted with restarts := counted.restarts + 1 }.emit
      (.restarted i (counted.childName i) generation))

end Relay.Supervisor
