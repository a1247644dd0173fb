import Relay.Duration
import Relay.Text.Worded

namespace Relay

/-- What the ends of a channel are meant for; it never changes how values are buffered. -/
inductive Channel.Pattern where
  | plain | publish | subscribe | push | pull | request | reply | dealer | router | pair
  deriving DecidableEq, Repr, Inhabited

namespace Channel.Pattern

def word : Pattern → String
  | .plain => "default"
  | .publish => "pub"
  | .subscribe => "sub"
  | .push => "push"
  | .pull => "pull"
  | .request => "req"
  | .reply => "rep"
  | .dealer => "dealer"
  | .router => "router"
  | .pair => "pair"

instance : Worded Pattern :=
  ⟨[.plain, .publish, .subscribe, .push, .pull, .request, .reply, .dealer, .router, .pair], word⟩

def label (p : Pattern) : String := camelCase p.word

end Channel.Pattern

inductive Channel.Error where
  | closed
  | full
  | empty
  | timedOut (timeout : Duration)
  | interrupted
  | invalidEndpoint (reason : String)
  | invalidCapacity (capacity : Nat)
  deriving DecidableEq, Repr

def Channel.Error.message : Channel.Error → String
  | .closed => "channel is closed"
  | .full => "channel is full"
  | .empty => "channel is empty"
  | .timedOut timeout => "channel operation timed out after " ++ timeout.text
  | .interrupted => "channel operation was interrupted"
  | .invalidEndpoint reason => "invalid channel endpoint: " ++ reason
  | .invalidCapacity capacity =>
    s!"invalid channel capacity {capacity}: capacity must be at least 1"

/-- A channel: how many values it can hold, those it holds, oldest first, and whether it is closed. -/
structure Channel (α : Type) where
  capacity : Nat
  pattern : Channel.Pattern
  buffer : List α
  closed : Bool

namespace Channel

variable {α : Type}

def make (capacity : Nat) (pattern : Pattern) : Except Error (Channel α) :=
  if capacity = 0 then .error (.invalidCapacity capacity) else .ok ⟨capacity, pattern, [], false⟩

def length (c : Channel α) : Nat := c.buffer.length

def isEmpty (c : Channel α) : Bool := c.buffer.isEmpty

def isFull (c : Channel α) : Bool := c.length == c.capacity

def push (c : Channel α) (value : α) : Channel α := { c with buffer := c.buffer ++ [value] }

def pop? (c : Channel α) : Option (α × Channel α) :=
  match c.buffer with
  | [] => none
  | value :: rest => some (value, { c with buffer := rest })

def close (c : Channel α) : Channel α := { c with closed := true }

def debugText (c : Channel α) : String :=
  "Channel \x7b capacity: " ++ toString c.capacity ++ ", pattern: " ++ c.pattern.label ++ ", len: " ++
    toString c.length ++ ", closed: " ++ toString c.closed ++ " \x7d"

/-- How long an operation is willing to wait: for ever, not at all, for some time, or until a token
is cancelled. -/
inductive Patience where
  | unlimited
  | none
  | timeout (limit : Duration)
  | token
  deriving DecidableEq, Repr

/-- Whether a patience runs out by itself: a timeout that no clock can reach does not. -/
def Patience.hasDeadline : Patience → Bool
  | .timeout limit => limit.seconds < 2 ^ 63
  | _ => false

/-- The refusal of an operation that cannot be done now, when its patience is at an end; `spent` is
the reading of its clock or token. -/
def Patience.refusal? (p : Patience) (atOnce : Error) (spent : Bool) : Option Error :=
  match p with
  | .unlimited => Option.none
  | .none => some atOnce
  | .timeout limit => if spent then some (.timedOut limit) else Option.none
  | .token => if spent then some .interrupted else Option.none

/-- Whether there is no room for an operation that sends; one that never waits asks for a channel that
is exactly full. -/
def lacksRoom (c : Channel α) : Patience → Bool
  | .none => c.isFull
  | _ => c.capacity ≤ c.length

/-- What one look at a channel gives: the result of the operation, or that it has to wait. -/
inductive Look (β : Type) where
  | done (result : Except Error β)
  | wait

/-- A look at the channel by an operation that sends. -/
def attemptSend (c : Channel α) (value : α) (patience : Patience) (spent : Bool) :
    Look Unit × Channel α :=
  if c.closed then (.done (.error .closed), c)
  else if c.lacksRoom patience then
    match patience.refusal? .full spent with
    | some e => (.done (.error e), c)
    | none => (.wait, c)
  else (.done (.ok ()), c.push value)

/-- A look at the channel by an operation that receives. -/
def attemptReceive (c : Channel α) (patience : Patience) (spent : Bool) : Look α × Channel α :=
  match c.pop? with
  | some (value, rest) => (.done (.ok value), rest)
  | none =>
    if c.closed then (.done (.error .closed), c)
    else
      match patience.refusal? .empty spent with
      | some e => (.done (.error e), c)
      | none => (.wait, c)

def trySend (c : Channel α) (value : α) : Except Error Unit × Channel α :=
  match c.attemptSend value .none true with
  | (.done result, rest) => (result, rest)
  | (.wait, rest) => (.error .full, rest)

def tryReceive (c : Channel α) : Except Error α × Channel α :=
  match c.attemptReceive .none true with
  | (.done result, rest) => (result, rest)
  | (.wait, rest) => (.error .empty, rest)

end Channel

end Relay
