import Relay.Supervision.Children

namespace Relay.Supervisor

open Supervision

/-- The children that are restarted for the failure of one. -/
def targets (s : Supervisor) (failed : Nat) : List Nat :=
  match s.strategy.policy with
  | .oneForOne => [failed]
  | .oneForAll => List.range s.children.length
  | .restForOne => s.dependencies.cascade failed

/-- Restarts one child for a failure; when that is not possible, the child has failed and the
supervisor is degraded. -/
def restartTarget (denied : Denials) (s : Supervisor) (i : Nat) : Supervisor :=
  match s.restart i denied with
  | (.ok (), after) => after
  | (.error _, after) =>
    { after.modifyChild i fun c => { c with failed := true, state := .failed } with
      status := .degraded }.notifyAll

/-- Records that a child failed, which signals its instance. -/
def recordFailure (s : Supervisor) (i : Nat) (failure : Failure) : Supervisor :=
  let failed := s.modifyChild i fun c => { c with failed := true, state := .failed }
  let dropped := failed.dropHandle i
  { dropped with failures := dropped.failures + 1 }.emit
    (.failed i (dropped.childName i) failure.rendered)

def charged (s : Supervisor) (now : Nat) : RestartBudget := s.budget.charge s.strategy.window now

/-- Answers the failure of a child: with restarts while the budget lasts, then by being degraded. -/
def handleFailure (s : Supervisor) (i : Nat) (failure : Failure) (now : Nat) (denied : Denials) :
    Supervisor :=
  let recorded := s.recordFailure i failure
  let counted := { recorded with budget := recorded.charged now }
  if counted.budget.admits counted.strategy then
    (counted.targets i).foldl (restartTarget denied) counted
  else ({ counted with status := .degraded }.emit (.limitExceeded i (counted.childName i))).notifyAll

/-- Whether the exit of an instance counts. -/
def accepts (s : Supervisor) (inst : Instance) : Bool :=
  s.status.isActive && s.children[inst.child]?.any fun c =>
    c.generation == inst.generation && c.state == .running

/-- Records that a child returned without failing. -/
def complete (s : Supervisor) (i : Nat) : Supervisor :=
  (s.dropHandle i).modifyChild i fun c => { c with state := .completed }

/-- The exit of an instance with a result, as far as the supervisor cares. -/
def childExited (s : Supervisor) (inst : Instance) (result : Except Failure Unit) (now : Nat)
    (denied : Denials) : Supervisor :=
  if s.accepts inst then
    match result with
    | .ok () => s.complete inst.child
    | .error failure => s.handleFailure inst.child failure now denied
  else s

/-- The exit of the instance with a number; afterwards its thread is finished. -/
def exit (s : Supervisor) (k : Nat) (result : Except Failure Unit) (now : Nat) (denied : Denials) :
    Supervisor :=
  match s.instances[k]? with
  | some inst =>
    if inst.live then
      let after := s.childExited inst result now denied
      { after with instances := after.instances.modify k fun inst => { inst with live := false } }
    else s
  | none => s

/-- How a task ends: by returning, with a failure, or by a panic with or without a text. -/
inductive Ending where
  | returned
  | failed (failure : Failure)
  | panicked (text : Option String)
  deriving DecidableEq, Repr

def Ending.result : Ending → Except Failure Unit
  | .returned => .ok ()
  | .failed failure => .error failure
  | .panicked text =>
    .error (.ofMessage ("Child panicked: " ++ text.getD "<non-string panic payload>"))

def ensureChild (s : Supervisor) (i : Nat) : Except Error Unit :=
  if !s.status.isActive then .error .notRunning
  else if s.children.length ≤ i then .error (.invalidChild i)
  else .ok ()

/-- Restarts a child on request, which costs nothing of the budget. -/
def restartChild (s : Supervisor) (i : Nat) (denied : Denials) : Except Error Unit × Supervisor :=
  match s.ensureChild i with
  | .error e => (.error e, s)
  | .ok () => s.restart i denied

/-- Reports a failure of a child, as if it had ended with it. -/
def reportFailure (s : Supervisor) (i : Nat) (failure : Failure) (now : Nat) (denied : Denials) :
    Except Error Unit × Supervisor :=
  match s.ensureChild i with
  | .error e => (.error e, s)
  | .ok () => (.ok (), s.handleFailure i failure now denied)

end Relay.Supervisor
