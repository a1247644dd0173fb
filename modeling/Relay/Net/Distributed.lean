import Relay.Channel.Basic
import Relay.Net.Connection
import Relay.Net.Endpoint
import Relay.Wire.Message

namespace Relay

/-- A channel of values of a kind, and the endpoint that is attached to it. -/
structure Distributed (k : Message.Kind) where
  channel : Channel k.Value
  endpoint : Option Endpoint
  permissions : Permissions
  transport : Transport

/-- Why a value is not sent: it is not in the channel, it has no encoding, or it is in the channel but
did not leave. -/
inductive Distributed.SendError where
  | notEnqueued (cause : Channel.Error)
  | notEncoded (cause : Endpoint.Error)
  | notTransmitted (cause : Endpoint.Error)
  deriving DecidableEq, Repr

def Distributed.SendError.message : Distributed.SendError → String
  | .notEnqueued cause => "failed to enqueue locally: " ++ cause.message
  | .notEncoded cause => "failed to encode for transmission: " ++ cause.message
  | .notTransmitted cause => "failed to transmit: " ++ cause.message

namespace Distributed

variable {m : Type → Type} [Monad m] {k : Message.Kind}

def ofChannel (channel : Channel k.Value) (permissions : Permissions) (transport : Transport) :
    Distributed k := ⟨channel, none, permissions, transport⟩

/-- What becomes of a payload that arrives: one that is no value of the kind is skipped. `enqueue` puts
a value into the channel and says whether the channel takes more. -/
def sink {σ : Type} (k : Message.Kind) (enqueue : k.Value → σ → σ × Bool) : Sink σ :=
  fun payload s =>
    match k.decode payload with
    | .ok value => enqueue value s
    | .error _ => (s, true)

/-- Opens an endpoint, and starts its listener if it is a server; one whose listener does not start is
given up. -/
def openEndpoint (host : Host m) (permissions : Permissions) (transport : Transport) (url : String) :
    m (Except Endpoint.Error Endpoint) := do
  match Address.parse url with
  | .error cause => return .error (.badAddress cause)
  | .ok address =>
    match ← Endpoint.ready? host permissions transport address with
    | .error e => return .error e
    | .ok endpoint =>
      if endpoint.isServer then
        match ← endpoint.listen host with
        | (.ok (), endpoint) => return .ok endpoint
        | (.error e, endpoint) =>
          endpoint.drop host
          return .error e
      else return .ok endpoint

/-- Attaches an endpoint in place of any other one, which is given up; a failure changes nothing. -/
def attach (host : Host m) (d : Distributed k) (url : String) :
    m (Except Endpoint.Error Unit × Distributed k) := do
  match ← openEndpoint host d.permissions d.transport url with
  | .error e => return (.error e, d)
  | .ok endpoint =>
    match d.endpoint with
    | some old => old.drop host
    | none => pure ()
    return (.ok (), { d with endpoint := some endpoint })

def create (host : Host m) (k : Message.Kind) (capacity : Nat) (pattern : Channel.Pattern)
    (url : Option String) : m (Except Channel.Error (Distributed k)) := do
  match Channel.make capacity pattern with
  | .error e => return .error e
  | .ok channel =>
    let d : Distributed k := ofChannel channel .allowAll .standard
    match url with
    | none => return .ok d
    | some url =>
      match ← d.attach host url with
      | (.ok (), d) => return .ok d
      | (.error e, _) => return .error (.invalidEndpoint e.message)

def detach (d : Distributed k) : Option Endpoint × Distributed k :=
  (d.endpoint, { d with endpoint := none })

def sendToEndpoint (host : Host m) (d : Distributed k) (value : k.Value) :
    m (Except Endpoint.Error Unit) := do
  match d.endpoint with
  | none => return .error .none
  | some endpoint => endpoint.send host (k.encode value)

/-- The client through which a value leaves, with the bytes that carry it; none without a client. -/
def outbound (d : Distributed k) (value : k.Value) :
    Except SendError (Option (Endpoint × Frame.Bytes)) :=
  match d.endpoint.filter (!·.isServer) with
  | none => .ok none
  | some endpoint =>
    match endpoint.encode (k.encode value) with
    | .ok wire => .ok (some (endpoint, wire))
    | .error e => .error (.notEncoded e)

/-- Sends a value into the channel and to the peer. It is encoded first, then put into the channel by
`enqueue`, and written only once it is there. -/
def send (host : Host m) (enqueue : k.Value → Channel k.Value → Except Channel.Error Unit × Channel k.Value)
    (d : Distributed k) (value : k.Value) : m (Except SendError Unit × Distributed k) := do
  match d.outbound value with
  | .error e => return (.error e, d)
  | .ok out =>
    match enqueue value d.channel, out with
    | (.error e, channel), _ => return (.error (.notEnqueued e), { d with channel })
    | (.ok (), channel), none => return (.ok (), { d with channel })
    | (.ok (), channel), some (endpoint, wire) =>
      match ← endpoint.transmit host wire with
      | .ok () => return (.ok (), { d with channel })
      | .error e => return (.error (.notTransmitted e), { d with channel })

/-- Gives up the endpoint and closes the channel. -/
def shutdown (host : Host m) (d : Distributed k) : m (Distributed k) := do
  match d.endpoint with
  | some endpoint => endpoint.drop host
  | none => pure ()
  return { d with endpoint := none, channel := d.channel.close }

def debugText (d : Distributed k) : String :=
  let endpoint := match d.endpoint with
    | some e => "Some(" ++ e.debugText ++ ")"
    | none => "None"
  "DistributedChannel \x7b channel: " ++ d.channel.debugText ++ ", endpoint: " ++ endpoint ++ ", .. \x7d"

end Distributed

end Relay
