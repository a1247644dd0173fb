import Relay.Supervision.Handling
import Relay.Supervision.Lifecycle

namespace Relay

open Supervision

/-- A supervisor, given by its number too, as the task of a child, which is named after the last segment
of its own name. -/
def Supervisor.asTask (n : Supervisor) (number : Nat) : Task := ⟨n.id.leaf, some number⟩

/-- Supervisors by number, and those that nobody holds any more. -/
structure Forest where
  supervisors : List Supervisor
  gone : List Nat

namespace Forest

abbrev Denials := Nat → Supervisor.Denials

def get? (f : Forest) (p : Nat) : Option Supervisor := f.supervisors[p]?

def set (f : Forest) (p : Nat) (s : Supervisor) : Forest :=
  { f with supervisors := f.supervisors.set p s }

def isGone (f : Forest) (p : Nat) : Bool := f.gone.contains p

def setActivity (f : Forest) (p k : Nat) (activity : Activity) : Forest :=
  { f with supervisors := f.supervisors.modify p fun s =>
      { s with instances := s.instances.modify k fun inst => { inst with activity } } }

/-- The exit of an instance; nobody handles it when its supervisor is gone. -/
def exit (f : Forest) (p k : Nat) (result : Except Failure Unit) (now : Nat) (denied : Denials) :
    Forest :=
  { f with supervisors := f.supervisors.modify p fun s =>
      if f.isGone p then
        { s with instances := s.instances.modify k fun inst => { inst with live := false } }
      else s.exit k result now (denied p) }

/-- The result of a run that has stopped its supervisor. -/
def conclusion (n : Supervisor) (escalated : Bool) : Except Failure Unit :=
  if escalated then
    .error (.ofMessage ("Supervisor '" ++ n.id.text ++ "' exhausted its restart budget."))
  else .ok ()

/-- The next step of an instance that runs the supervisor `number`; none while it has to wait. -/
def runStep (f : Forest) (p k : Nat) (inst : Instance) (number : Nat) (n : Supervisor) (now : Nat)
    (denied : Denials) : Option Forest :=
  match inst.activity with
  | .working => none
  | .waiting =>
    if n.status.isActive && !inst.signalled then none else some (f.setActivity p k .checking)
  | .checking =>
    if inst.signalled then some (f.exit p k (.ok ()) now denied)
    else some (f.setActivity p k .starting)
  | .starting =>
    match n.start (denied number) with
    | (.ok (), after) => some ((f.set number after).setActivity p k .watching)
    | (.error e, after) => some ((f.set number after).exit p k (.error e.failure) now denied)
  | .watching =>
    if inst.signalled then some (f.setActivity p k (.stopping false))
    else if n.escalates && n.status == .degraded then some (f.setActivity p k (.stopping true))
    else none
  | .stopping escalated =>
    match n.beginStop with
    | (.error e, after) => some ((f.set number after).exit p k (.error e.failure) now denied)
    | (.ok .finished, after) => some ((f.set number after).exit p k (conclusion n escalated) now denied)
    | (.ok (.continues j), after) => some ((f.set number after).setActivity p k (.joining escalated j))
  | .joining escalated j =>
    if n.stopReturned j then some (f.exit p k (conclusion n escalated) now denied) else none

def nestedOf (s : Supervisor) (inst : Instance) : Option Nat :=
  s.children[inst.child]?.bind (·.task.nested)

/-- The next step of a live instance whose task is a supervisor. -/
def nestedStep (f : Forest) (p k : Nat) (now : Nat) (denied : Denials) : Option Forest := do
  let s ← f.get? p
  let inst ← s.instances[k]?
  let number ← nestedOf s inst
  let n ← f.get? number
  if inst.live then f.runStep p k inst number n now denied else none

def stopStep (f : Forest) (p j : Nat) : Option Forest := do
  let s ← f.get? p
  return f.set p (← s.stopStep j)

/-- Whether a supervisor is a child of another that is held, or an instance still runs it. -/
def isNeeded (f : Forest) (p : Nat) : Bool :=
  (List.range f.supervisors.length).any fun q =>
    (f.get? q).any fun s =>
      (!f.isGone q && s.children.any fun c => c.task.nested == some p) ||
        s.instances.any fun inst => inst.live && nestedOf s inst == some p

/-- Gives a supervisor up: all its instances are signalled. -/
def forget (f : Forest) (p : Nat) : Forest :=
  { supervisors := f.supervisors.modify p (·.dropHandles), gone := p :: f.gone }

end Forest

end Relay
