import Relay.Channel.Crowd

namespace Relay.Channel

variable {α : Type}

/-- What a background thread does: one operation, or receiving until the channel is closed. -/
inductive Job (α : Type) where
  | call (call : Call α)
  | drain

/-- A background thread, the operation it is at, and the values it drained so far. -/
structure Worker (α : Type) where
  id : String
  caller : Nat
  drained : Option (List α)

inductive Act (α : Type) where
  | perform (call : Call α)
  | drain
  | take (n : Nat)
  | close
  | cancel
  | clone
  | drop
  | debug
  | go (id : String) (job : Job α)
  | join (id : String)

inductive Answer (α : Type) where
  | reply (reply : Reply α)
  | values (values : List α)
  | handle (index : Nat)
  | text (text : String)
  | wouldBlock
  | nothing

/-- A channel in use, the token, the number of handles made so far, and the background threads. -/
structure Session (α : Type) where
  crowd : Crowd α
  cancelled : Bool
  handles : Nat
  workers : List (Worker α)

namespace Session

def start (channel : Channel α) : Session α := ⟨.ofChannel channel, false, 1, []⟩

def channel (s : Session α) : Channel α := s.crowd.channel

def withCrowd (s : Session α) (crowd : Crowd α) : Session α := { s with crowd }

/-- Adds an operation, as the last caller. -/
def arrive (s : Session α) (call : Call α) : Session α × Nat :=
  (s.withCrowd ((s.crowd.step (.arrive call)).getD s.crowd), s.crowd.callers.length)

def settle (s : Session α) : Session α :=
  s.withCrowd (s.crowd.settle s.cancelled s.crowd.fuel)

/-- Lets a background thread that drains go on to its next operation, once one is finished. -/
def resume (s : Session α) (w : Worker α) : Option (Session α × Worker α) :=
  match w.drained, s.crowd.reply? w.caller with
  | some values, some (.received (.ok value)) =>
    let (s, caller) := s.arrive (.receive .unlimited)
    some (s, { w with caller, drained := some (values ++ [value]) })
  | _, _ => none

/-- Lets all background threads go on as far as they can. -/
def progress : (fuel : Nat) → Session α → Session α
  | 0, s => s
  | fuel + 1, s =>
    let s := s.settle
    let (moved, again, workers) := s.workers.foldl (fun (s, again, done) w =>
      match s.resume w with
      | some (s, w) => (s, true, done ++ [w])
      | none => (s, again, done ++ [w])) (s, false, [])
    let s := { moved with workers }
    if again then progress fuel s else s

/-- Enough rounds for draining all values that are buffered or about to be sent. -/
def rounds (s : Session α) : Nat := s.channel.length + s.crowd.callers.length + 2

def advance (s : Session α) : Session α := progress s.rounds s

/-- Waits for an operation: its reply, once nothing else can happen but its deadline passing. -/
def await (s : Session α) (caller : Nat) : Option (Reply α) × Session α :=
  let s := s.advance
  match s.crowd.reply? caller with
  | some reply => (some reply, s)
  | none =>
    if s.crowd.callers[caller]?.any (·.call.patience.hasDeadline) then
      let s := (s.withCrowd (s.crowd.expire caller)).advance
      (s.crowd.reply? caller, s)
    else (none, s)

/-- Performs an operation in the foreground; one that would never end leaves everything as it was. -/
def perform (s : Session α) (call : Call α) : Option (Reply α) × Session α :=
  let (arrived, caller) := s.arrive call
  match arrived.await caller with
  | (some reply, after) => (some reply, after)
  | (none, _) => (none, s)

/-- Receives until the channel says it is closed, or until `n` values are there. -/
def collect (s : Session α) : (n : Nat) → List α × Session α
  | 0 => ([], s)
  | n + 1 =>
    match s.perform (.receive .unlimited) with
    | (some (.received (.ok value)), after) =>
      let (values, last) := after.collect n
      (value :: values, last)
    | (_, after) => ([], after)

/-- The values that a foreground thread can still receive. -/
def available (s : Session α) : Nat := s.channel.length + s.crowd.callers.length

def act (s : Session α) : Act α → Answer α × Session α
  | .perform call =>
    match s.perform call with
    | (some reply, after) => (.reply reply, after)
    | (none, after) => (.wouldBlock, after)
  | .drain =>
    if s.workers.isEmpty && !s.channel.closed then (.wouldBlock, s)
    else
      let (values, after) := s.collect (s.available + 1)
      (.values values, after)
  | .take n =>
    if s.workers.isEmpty && !s.channel.closed && s.channel.length < n then (.wouldBlock, s)
    else
      let (values, after) := s.collect n
      (.values values, after)
  | .close => (.nothing, (s.withCrowd ((s.crowd.step .close).getD s.crowd)).advance)
  | .cancel => (.nothing, { s with cancelled := true }.advance)
  | .clone => (.handle s.handles, { s with handles := s.handles + 1 })
  | .drop => (.nothing, s)
  | .debug => (.text s.channel.debugText, s)
  | .go id job =>
    let (call, drained) := match job with
      | .call call => (call, none)
      | .drain => (.receive .unlimited, some [])
    let (arrived, caller) := s.arrive call
    (.nothing, { arrived with workers := s.workers ++ [(⟨id, caller, drained⟩ : Worker α)] }.advance)
  | .join id =>
    match s.workers.find? (·.id == id) with
    | none => (.nothing, s)
    | some w =>
      let (_, after) := s.await w.caller
      let finished := (after.workers.find? (·.id == id)).getD w
      let rest := { after with workers := after.workers.filter (·.id != id) }
      match finished.drained, after.crowd.reply? finished.caller with
      | some values, _ => (.values values, rest)
      | none, some reply => (.reply reply, rest)
      | none, none => (.wouldBlock, s)

/-- What the foreground sees of the channel; nothing while background threads may change it. -/
def view? (s : Session α) : Option (Channel α) := if s.workers.isEmpty then some s.channel else none

end Session

end Relay.Channel
