import Relay.Wire.Frame

namespace Relay

/-- What takes the frames of a connection: its state after a frame, and whether it wants more. -/
abbrev Sink (σ : Type) := Frame.Bytes → σ → σ × Bool

/-- What reading from a stream gives: bytes, nothing in time, the end of the stream, or a failure. -/
inductive Connection.Read where
  | bytes (chunk : Frame.Bytes)
  | timedOut
  | ended
  | failed
  deriving DecidableEq, Repr

/-- A connection: what it has not delivered yet, the frames that it gave to the sink, the state of the
sink, and whether it goes on reading. -/
structure Connection (σ : Type) where
  buffer : Frame.Bytes
  delivered : Nat
  sink : σ
  isOpen : Bool

namespace Connection

variable {σ : Type}

def start (sink : σ) : Connection σ := ⟨[], 0, sink, true⟩

/-- Gives every whole frame of the buffer to the sink, until it wants no more or a frame is refused. -/
def drain (limit : Nat) (sink : Sink σ) (c : Connection σ) : Connection σ :=
  match h : Frame.decode limit c.buffer with
  | (.ok (some frame), rest) =>
    let (s, more) := sink frame c.sink
    let c := { c with delivered := c.delivered + 1, sink := s }
    if more then drain limit sink { c with buffer := rest }
    else { c with buffer := rest, isOpen := false }
  | (.ok none, rest) => { c with buffer := rest }
  | (.error _, rest) => { c with buffer := rest, isOpen := false }
termination_by c.buffer.length
decreasing_by exact Frame.length_lt_of_decode h

/-- A connection after a read; at the end of the stream a partial frame is dropped. -/
def step (limit : Nat) (sink : Sink σ) (c : Connection σ) : Read → Connection σ
  | .bytes chunk => drain limit sink { c with buffer := c.buffer ++ chunk }
  | .timedOut => c
  | .ended => { c with buffer := (Frame.decodeEnd limit c.buffer).2, isOpen := false }
  | .failed => { c with isOpen := false }

/-- One turn of the loop of a connection: whether the token is cancelled when it begins, and otherwise
what reading gives. -/
structure Turn where
  cancelled : Bool
  read : Read
  deriving DecidableEq, Repr

/-- A connection after turns, none of which is taken once it is closed or its token was cancelled. -/
def run (limit : Nat) (sink : Sink σ) (c : Connection σ) : List Turn → Connection σ
  | [] => c
  | turn :: rest =>
    if c.isOpen && !turn.cancelled then run limit sink (c.step limit sink turn.read) rest else c

end Connection

end Relay
