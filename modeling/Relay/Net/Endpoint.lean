import Relay.Capability
import Relay.Net.Address
import Relay.Net.System
import Relay.Net.Transport
import Relay.Spawn.Basic
import Relay.Text.Quoted

namespace Relay

/-- Why something about an endpoint fails. -/
inductive Endpoint.Error where
  | badAddress (cause : Address.Error)
  | unresolved (address : Address) (cause : SystemError)
  | notBound (address : Address) (cause : SystemError)
  | notConnected (address : Address) (cause : SystemError)
  | notConfigured (address : Address) (setting : String) (cause : SystemError)
  | notStarted (address : Address) (cause : Spawn.Error)
  | unimplemented (protocol : Protocol)
  | notAClient (address : Address)
  | notAServer (address : Address)
  | notPermitted (address : Address)
  | notSent (address : Address) (cause : SystemError)
  | notEncoded (cause : Frame.Error)
  | none
  deriving DecidableEq, Repr

def Endpoint.Error.message : Endpoint.Error → String
  | .badAddress cause => cause.message
  | .unresolved address cause => "failed to resolve " ++ address.text ++ ": " ++ cause.message
  | .notBound address cause => "failed to bind " ++ address.text ++ ": " ++ cause.message
  | .notConnected address cause => "failed to connect to " ++ address.text ++ ": " ++ cause.message
  | .notConfigured address setting cause =>
    "failed to configure " ++ setting ++ " for " ++ address.text ++ ": " ++ cause.message
  | .notStarted address cause =>
    "failed to start listener for " ++ address.text ++ ": " ++ cause.message
  | .unimplemented protocol => protocol.scheme ++ " endpoints are not implemented"
  | .notAClient address => address.text ++ " is not a client endpoint"
  | .notAServer address => address.text ++ " is not a server endpoint"
  | .notPermitted address => "network access is not permitted for " ++ address.text
  | .notSent address cause => "failed to send to " ++ address.text ++ ": " ++ cause.message
  | .notEncoded cause => "failed to encode message: " ++ cause.message
  | .none => "no endpoint attached"

/-- What an endpoint does its work with; a socket is the number that the machine gave it. -/
inductive Endpoint.Socket where
  | none
  | streamServer (id : Nat)
  | stream (id : Nat)
  | datagramServer (id : Nat)
  | datagram (id : Nat) (peer : SocketAddress)
  deriving DecidableEq, Repr

def Endpoint.Socket.id? : Endpoint.Socket → Option Nat
  | .none => Option.none
  | .streamServer id | .stream id | .datagramServer id | .datagram id _ => some id

/-- An endpoint, and whether its listener runs. -/
structure Endpoint where
  address : Address
  transport : Transport
  permissions : Permissions
  socket : Endpoint.Socket
  listening : Bool
  deriving DecidableEq, Repr

namespace Endpoint

variable {m : Type → Type} [Monad m]

/-- The group that a multicast endpoint sends to: its host, if that is a group, or the usual one. -/
def groupOf (address : Address) (transport : Transport) : Ipv4 :=
  match Ipv4.parse? address.host with
  | some group => if group.isMulticast then group else transport.multicastGroup
  | Option.none => transport.multicastGroup

def resolve (host : Host m) (address : Address) (port : Nat) :
    m (Except Error (List SocketAddress)) := do
  match ← host.resolve address.host port with
  | .error cause => return .error (.unresolved address cause)
  | .ok [] => return .error (.unresolved address (.other "no addresses found"))
  | .ok found => return .ok found

def asked {α : Type} (request : m (Except SystemError α)) (refused : SystemError → Error) :
    ExceptT Error m α :=
  ExceptT.mk do return (← request).mapError refused

def configure (host : Host m) (address : Address) (id : Nat) (setting : SocketSetting) :
    ExceptT Error m Unit :=
  asked (host.configure id setting) (.notConfigured address setting.name)

def bind (host : Host m) (address : Address) (port id : Nat) : ExceptT Error m Unit := do
  configure host address id .sharesPort
  asked (host.bind id port) (.notBound address)

def bindStream (host : Host m) (address : Address) (transport : Transport) (port id : Nat) :
    ExceptT Error m Unit := do
  bind host address port id
  asked (host.listen id transport.backlog) (.notBound address)
  configure host address id .neverWaits

/-- A new socket that is made ready for its work, or closed again. -/
def prepared (host : Host m) (address : Address) (opened : m (Except SystemError Nat))
    (prepare : Nat → ExceptT Error m Unit) (socket : Nat → Socket) : m (Except Error Socket) := do
  match ← opened with
  | .error cause => return .error (.notBound address cause)
  | .ok id =>
    match ← (prepare id).run with
    | .ok () => return .ok (socket id)
    | .error e =>
      host.close id
      return .error e

/-- Connects to the first address that accepts; the last refusal counts. -/
def connectFirst (host : Host m) (address : Address) : (last : SystemError) → List SocketAddress →
    m (Except Error Socket)
  | last, [] => return .error (.notConnected address last)
  | _, peer :: rest => do
    match ← host.openStream peer.isV4 with
    | .error cause => return .error (.notBound address cause)
    | .ok id =>
      match ← host.connect id peer with
      | .error cause =>
        host.close id
        connectFirst host address cause rest
      | .ok () =>
        match ← (configure host address id .sendsAtOnce).run with
        | .ok () => return .ok (.stream id)
        | .error e =>
          host.close id
          return .error e

def openSocketAt (host : Host m) (address : Address) (transport : Transport) (port : Nat) :
    m (Except Error Socket) := do
  match address.protocol, address.isServer with
  | .tcp, true =>
    prepared host address (host.openStream true) (bindStream host address transport port) .streamServer
  | .tcp, false =>
    match ← resolve host address port with
    | .error e => return .error e
    | .ok peers => connectFirst host address (.other "no addresses to connect to") peers
  | .udp, true =>
    prepared host address (host.openDatagram true) (bind host address port) .datagramServer
  | .udp, false =>
    match ← resolve host address port with
    | .error e => return .error e
    | .ok peers =>
      match peers.find? (·.isV4) <|> peers.head? with
      | Option.none => return .error (.unresolved address (.other "no addresses found"))
      | some peer =>
        prepared host address (host.openDatagram peer.isV4) (fun _ => pure ()) (.datagram · peer)
  | _, true =>
    let join (id : Nat) : ExceptT Error m Unit := do
      bind host address port id
      configure host address id (.inGroup (groupOf address transport))
    prepared host address (host.openDatagram true) join .datagramServer
  | _, false =>
    prepared host address (host.openDatagram true)
      (configure host address · (.reach transport.multicastTtl))
      (.datagram · (.v4 (groupOf address transport) port))

/-- The socket of an endpoint, which for most protocols needs a port. -/
def openSocket (host : Host m) (address : Address) (transport : Transport) :
    m (Except Error Socket) := do
  match address.protocol, address.requiredPort with
  | .inproc, _ => return .ok .none
  | .ipc, _ => return .error (.unimplemented .ipc)
  | _, .error cause => return .error (.badAddress cause)
  | _, .ok port => openSocketAt host address transport port

/-- An endpoint at an address; protocols of the network need permission. -/
def ready? (host : Host m) (permissions : Permissions) (transport : Transport)
    (address : Address) : m (Except Error Endpoint) := do
  if address.protocol.isNetwork && !permissions.permits .network then
    return .error (.notPermitted address)
  else
    match ← openSocket host address transport with
    | .ok socket => return .ok ⟨address, transport, permissions, socket, false⟩
    | .error e => return .error e

def isServer (e : Endpoint) : Bool := e.address.isServer

def localAddress (host : Host m) (e : Endpoint) : m (Option LocalAddress) := do
  match e.socket.id? with
  | some id => host.localAddress id
  | Option.none => return Option.none

def encode (e : Endpoint) (payload : Frame.Bytes) : Except Error Frame.Bytes :=
  match e.socket with
  | .none => if e.isServer then .error (.notAClient e.address) else .ok []
  | .stream _ => (Frame.encode e.transport.maxFrameLen payload).mapError .notEncoded
  | .datagram _ _ => .ok payload
  | .streamServer _ | .datagramServer _ => .error (.notAClient e.address)

/-- Counts a frame that was sent, or says why it was not. -/
def counted (host : Host m) (e : Endpoint) : Except SystemError Unit → m (Except Error Unit)
  | .ok () => do
    host.countSent e.address.protocol.scheme
    return .ok ()
  | .error cause => return .error (.notSent e.address cause)

def transmit (host : Host m) (e : Endpoint) (wire : Frame.Bytes) : m (Except Error Unit) := do
  match e.socket with
  | .none => return if e.isServer then .error (.notAClient e.address) else .ok ()
  | .stream id => e.counted host (← host.write id wire)
  | .datagram id peer => e.counted host (← host.sendTo id peer wire)
  | .streamServer _ | .datagramServer _ => return .error (.notAClient e.address)

def send (host : Host m) (e : Endpoint) (payload : Frame.Bytes) : m (Except Error Unit) := do
  match e.encode payload with
  | .ok wire => e.transmit host wire
  | .error err => return .error err

/-- An endpoint whose listener was stopped and its threads waited for. -/
def shutdown (host : Host m) (e : Endpoint) : m Endpoint := do
  match e.listening, e.socket.id? with
  | true, some id =>
    host.stopThreads id
    return { e with listening := false }
  | _, _ => return { e with listening := false }

/-- Starts the threads of a listener on a handle of their own, which is closed if that fails. -/
def startListener (host : Host m) (e : Endpoint) (handleName : String) (id : Nat) :
    m (Except Error Unit) := do
  match ← host.duplicate id with
  | .error cause => return .error (.notConfigured e.address handleName cause)
  | .ok handle =>
    if !e.permissions.permits .spawn then
      host.close handle
      return .error (.notStarted e.address .notPermitted)
    else
      match ← host.startThread id handle with
      | Option.none => return .ok ()
      | some cause =>
        host.close handle
        return .error (.notStarted e.address (.noThread cause))

/-- A server whose listener was started anew; one inside the process has nothing to listen to. -/
def listen (host : Host m) (e : Endpoint) : m (Except Error Unit × Endpoint) := do
  if !e.isServer then return (.error (.notAServer e.address), e)
  else
    let e ← e.shutdown host
    match e.socket with
    | .none => return (.ok (), e)
    | .streamServer id =>
      let result ← e.startListener host "listener handle" id
      return (result, { e with listening := result.isOk })
    | .datagramServer id =>
      let result ← e.startListener host "socket handle" id
      return (result, { e with listening := result.isOk })
    | .stream _ | .datagram _ _ => return (.error (.notAServer e.address), e)

/-- Gives up an endpoint: its listener is stopped and its socket closed. -/
def drop (host : Host m) (e : Endpoint) : m Unit := do
  let e ← e.shutdown host
  match e.socket.id? with
  | some id => host.close id
  | Option.none => return

def addressDebugText (a : Address) : String :=
  let port := match a.port with
    | some port => s!"Some({port})"
    | Option.none => "None"
  "EndpointAddress \x7b protocol: " ++ a.protocol.label ++ ", host: " ++ Text.quoted a.host ++
    ", port: " ++ port ++ ", is_server: " ++ toString a.isServer ++ " \x7d"

def debugText (e : Endpoint) : String :=
  "Endpoint \x7b address: " ++ addressDebugText e.address ++ ", listening: " ++
    toString e.listening ++ ", .. \x7d"

end Endpoint

end Relay
