import Relay.Parallel.Partition

namespace Relay.FanOut

inductive Error where
  | noWorkers
  | workerPanicked (id : Nat)
  deriving DecidableEq, Repr

def Error.message : Error → String
  | .noWorkers => "parallel thread count must be at least 1"
  | .workerPanicked id => s!"parallel worker {id} panicked"

/-- A number of workers, at least one. -/
structure Pool where
  workers : Nat
  workers_pos : 0 < workers

def Pool.make (workers : Nat) : Except Error Pool :=
  if h : 0 < workers then .ok ⟨workers, h⟩ else .error .noWorkers

inductive Ending where
  | returned
  | panicked
  deriving DecidableEq, Repr

/-- What has happened so far: the calls in the order they were made, and the workers that ended. -/
structure Progress (β : Type) where
  calls : List (Nat × β)
  ended : List (Nat × Ending)

/-- Lets the workers run to their ends in the given order. -/
def progress {β : Type} (f : Nat → β × Ending) (order : List Nat) : Progress β :=
  order.foldl (fun p id =>
    let (call, ending) := f id
    ⟨p.calls ++ [(id, call)], p.ended ++ [(id, ending)]⟩) ⟨[], []⟩

def Progress.ending? {β : Type} (p : Progress β) (id : Nat) : Option Ending :=
  (p.ended.find? (·.1 = id)).map (·.2)

def Progress.firstPanic? {β : Type} (p : Progress β) (workers : Nat) : Option Nat :=
  (List.range workers).find? fun id => p.ending? id = some .panicked

/-- Joins the workers one after the other: the least worker that panicked is reported. -/
def Progress.joined {β : Type} (p : Progress β) (workers : Nat) : Except Error Unit :=
  match p.firstPanic? workers with
  | some id => .error (.workerPanicked id)
  | none => .ok ()

/-- Calls `f` once for every worker, in ascending order, and joins all of them. -/
def Pool.run {β : Type} (pool : Pool) (f : Nat → β × Ending) : Progress β × Except Error Unit :=
  let p := progress f (List.range pool.workers)
  (p, p.joined pool.workers)

/-- The sum of 64-bit numbers, without regard to overflow. -/
def wrappingSum (items : List Int64) : Int64 := items.foldl (· + ·) 0

structure PartialSum where
  workers : Nat
  span : Span
  sum : Int64
  deriving DecidableEq, Repr

/-- The worker that sums its piece of the items, and then panics if it is told to. -/
def sumWorker (items : List Int64) (workers : Nat) (panics : List Nat) (id : Nat) :
    PartialSum × Ending :=
  let span := partition (.ofNat items.length) (.ofNat id) (.ofNat workers)
  (⟨workers, span, wrappingSum (span.slice items)⟩,
    if panics.contains id then .panicked else .returned)

end Relay.FanOut
