import Relay.Parallel.FanOut

namespace Relay.FanOut

/-- Why a fan-out that has begun does not end well. -/
inductive Failure where
  | noThread (cause : String)
  | failed (e : Error)
  deriving DecidableEq, Repr

def Failure.message : Failure → String
  | .noThread cause => "failed to spawn parallel worker thread: " ++ cause
  | .failed e => e.message

/-- A fan-out under way: what its workers have done, how many threads were created and how many of these
were joined, the first of the joined workers that panicked, why a thread could not be created, and what the
caller was told at last. -/
structure Crew (β : Type) where
  progress : Progress β
  created : Nat
  joined : Nat
  panicked : Option Nat
  noThread : Option String
  result : Option (Except Failure Unit)

/-- What can happen next: the caller creates a thread, or fails to, a worker calls the function, or ends, the
caller joins the next worker, or returns. -/
inductive Event where
  | create (failure : Option String)
  | call (id : Nat)
  | finish (id : Nat)
  | join
  | conclude

variable {β : Type}

def Progress.hasCalled (p : Progress β) (id : Nat) : Bool := p.calls.any (·.1 == id)

def Progress.call (p : Progress β) (id : Nat) (value : β) : Progress β :=
  { p with calls := p.calls ++ [(id, value)] }

def Progress.finish (p : Progress β) (id : Nat) (ending : Ending) : Progress β :=
  { p with ended := p.ended ++ [(id, ending)] }

namespace Crew

def start : Crew β := ⟨⟨[], []⟩, 0, 0, none, none, none⟩

def isCreating (c : Crew β) (pool : Pool) : Bool := c.created < pool.workers && c.noThread.isNone

/-- The least worker that panicked, as far as the workers are joined. -/
def panickedWith (c : Crew β) : Ending → Option Nat
  | .panicked => c.panicked.or (some c.joined)
  | .returned => c.panicked

def verdict (c : Crew β) : Except Failure Unit :=
  match c.noThread, c.panicked with
  | some cause, _ => .error (.noThread cause)
  | none, some id => .error (.failed (.workerPanicked id))
  | none, none => .ok ()

/-- The state after an event; none when the event cannot happen. Threads are created for one worker
after the other, and whether one can be created is part of the event. -/
def step (pool : Pool) (f : Nat → β × Ending) (c : Crew β) : Event → Option (Crew β)
  | .create failure =>
    if c.isCreating pool then
      match failure with
      | none => some { c with created := c.created + 1 }
      | some cause => some { c with noThread := some cause }
    else none
  | .call id =>
    if id < c.created && !c.progress.hasCalled id then
      some { c with progress := c.progress.call id (f id).1 }
    else none
  | .finish id =>
    if c.progress.hasCalled id && (c.progress.ending? id).isNone then
      some { c with progress := c.progress.finish id (f id).2 }
    else none
  | .join =>
    if !c.isCreating pool && c.joined < c.created then
      (c.progress.ending? c.joined).map fun ending =>
        { c with joined := c.joined + 1, panicked := c.panickedWith ending }
    else none
  | .conclude =>
    if !c.isCreating pool && c.created ≤ c.joined && c.result.isNone then
      some { c with result := some c.verdict }
    else none

def run (pool : Pool) (f : Nat → β × Ending) (c : Crew β) : List Event → Option (Crew β)
  | [] => some c
  | event :: events => (c.step pool f event).bind fun d => d.run pool f events

end Crew

end Relay.FanOut
