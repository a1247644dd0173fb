import Relay.Bridge.Basic
import Std.Async.DNS
import Std.Async.Signal
import Std.Async.TCP
import Std.Async.UDP
import Std.Sync.CancellationToken
import Std.Sync.Mutex

namespace Relay.Main

open Std.Async

/-- The sockets that are open; the number of a socket is its place. A socket for streams is new until it is
bound or connected. -/
inductive Opened where
  | newStream
  | stream (socket : TCP.Socket.Client)
  | streamServer (socket : TCP.Socket.Server)
  | datagram (socket : UDP.Socket)
  | closed

abbrev Sockets := IO.Ref (Array Opened)

def add (sockets : Sockets) (socket : Opened) : IO Nat :=
  sockets.modifyGet fun all => (all.size, all.push socket)

def find (sockets : Sockets) (id : Nat) : IO Opened := return (← sockets.get).getD id .closed

def put (sockets : Sockets) (id : Nat) (socket : Opened) : IO Unit :=
  sockets.modify (·.setIfInBounds id socket)

/-- The result of an action, or why the machine refuses it. -/
def attempt {α : Type} (action : IO α) : IO (Except SystemError α) := do
  try return .ok (← action)
  catch e => return .error (.other (toString e))

def toIPv4 (ip : Ipv4) : Std.Net.IPv4Addr := ⟨#v[ip.a, ip.b, ip.c, ip.d]⟩

def ofIPAddr (port : Nat) : Std.Net.IPAddr → SocketAddress
  | .v4 ip => .v4 ⟨ip.octets[0], ip.octets[1], ip.octets[2], ip.octets[3]⟩ port
  | .v6 ip => .v6 ⟨ip.segments.toList⟩ port

def toAddress : SocketAddress → Std.Net.SocketAddress
  | .v4 ip port => .v4 ⟨toIPv4 ip, port.toUInt16⟩
  | .v6 ip port =>
    let group (i : Nat) : UInt16 := ip.groups.getD i 0
    .v6 ⟨⟨#v[group 0, group 1, group 2, group 3, group 4, group 5, group 6, group 7]⟩, port.toUInt16⟩

def everywhere (port : Nat) : Std.Net.SocketAddress := toAddress (.v4 ⟨0, 0, 0, 0⟩ port)

def portNumber : Std.Net.SocketAddress → Nat
  | .v4 a => a.port.toNat
  | .v6 a => a.port.toNat

def bytes (payload : Frame.Bytes) : ByteArray := ⟨payload.toArray⟩

def noSocket {α : Type} : IO α := throw (.userError "socket is closed")

def host (sockets : Sockets) : Host IO where
  resolve name port := attempt do
    if name.contains '\x00' then throw (.userError SystemError.nulInName.description)
    let found ← Async.block (DNS.getAddrInfo name "" none)
    return found.toList.map (ofIPAddr port)
  openStream _ := attempt (add sockets .newStream)
  openDatagram _ := attempt do
    let socket ← UDP.Socket.mk
    add sockets (.datagram socket)
  configure id setting := attempt do
    match ← find sockets id, setting with
    | .stream socket, .sendsAtOnce => socket.noDelay
    | .datagram socket, .inGroup group => socket.setMembership (.v4 (toIPv4 group)) none .enterGroup
    | .datagram socket, .reach ttl =>
      socket.bind (everywhere 0)
      socket.setMulticastTTL ttl.toUInt32
    | .closed, _ => noSocket
    | _, _ => pure ()
  bind id port := attempt do
    match ← find sockets id with
    | .newStream =>
      let socket ← TCP.Socket.Server.mk
      socket.bind (everywhere port)
      put sockets id (.streamServer socket)
    | .datagram socket => socket.bind (everywhere port)
    | _ => noSocket
  listen id backlog := attempt do
    match ← find sockets id with
    | .streamServer socket => socket.listen backlog.toNat.toUInt32
    | _ => noSocket
  connect id peer := attempt do
    match ← find sockets id with
    | .newStream =>
      let socket ← TCP.Socket.Client.mk
      Async.block (socket.connect (toAddress peer))
      put sockets id (.stream socket)
    | _ => noSocket
  duplicate _ := attempt (add sockets .closed)
  write id payload := attempt do
    match ← find sockets id with
    | .stream socket => Async.block (socket.send (bytes payload))
    | _ => noSocket
  sendTo id peer payload := attempt do
    match ← find sockets id with
    | .datagram socket => Async.block (socket.send (bytes payload) (some (toAddress peer)))
    | _ => noSocket
  localAddress id := do
    match ← find sockets id with
    | .stream socket => return some (.port (portNumber (← socket.getSockName)))
    | .streamServer socket => return some (.port (portNumber (← socket.getSockName)))
    | .datagram socket => return some (.port (portNumber (← socket.getSockName)))
    | .newStream | .closed => return none
  startThread _ _ := return none
  stopThreads _ := return
  close id := do
    match ← find sockets id with
    | .stream socket =>
      let _ ← attempt (Async.block socket.shutdown)
    | _ => pure ()
    put sockets id .closed
  countSent _ := return

/-- A channel that threads share, and what tells them that it changed. -/
structure Shared where
  channel : Std.Mutex (Channel Frame.Bytes)
  changed : Std.Condvar

def Shared.new (channel : Channel Frame.Bytes) : IO Shared := do
  return ⟨← Std.Mutex.new channel, ← Std.Condvar.new⟩

/-- Looks at the channel, again after every change, until a look finishes the operation. -/
partial def Shared.operate {β : Type} (s : Shared) (token : Std.CancellationToken)
    (look : Channel Frame.Bytes → Bool → Channel.Look β × Channel Frame.Bytes) :
    IO (Except Channel.Error β) := do
  let first ← s.channel.atomically do
    match look (← get) (← token.isCancelled) with
    | (.done result, channel) =>
      set channel
      return some result
    | (.wait, _) =>
      s.changed.wait s.channel.mutex
      return none
  match first with
  | some result =>
    s.changed.notifyAll
    return result
  | none => s.operate token look

def Shared.send (s : Shared) (token : Std.CancellationToken) (payload : Frame.Bytes) :
    IO (Except Channel.Error Unit) :=
  s.operate token fun channel spent => channel.attemptSend payload .token spent

def Shared.receive (s : Shared) (token : Std.CancellationToken) :
    IO (Except Channel.Error Frame.Bytes) :=
  s.operate token fun channel spent => channel.attemptReceive .token spent

def Shared.close (s : Shared) : IO Unit := do
  s.channel.atomically (modify Channel.close)
  s.changed.notifyAll

def Shared.cancel (s : Shared) (token : Std.CancellationToken) : IO Unit := do
  s.channel.atomically (m := IO) do token.cancel
  s.changed.notifyAll

/-- Prints what arrives until the channel is closed or the token cancelled. -/
partial def printMessages (s : Shared) (token : Std.CancellationToken) : IO Unit := do
  match ← s.receive token with
  | .ok payload =>
    let out ← IO.getStdout
    out.write (bytes (Bridge.printed payload))
    out.flush
    printMessages s token
  | .error _ => return

def awaited {α : Type} (token : Std.CancellationToken) (event : Selector α) : IO (Option α) := do
  if ← token.isCancelled then return none
  else
    Async.block (Selectable.one #[
      .case token.selector fun _ => pure none,
      .case event fun a => pure (some a)])

/-- Puts frames into the channel in order, and says whether it took them all. -/
def deliver (s : Shared) (token : Std.CancellationToken) : List Frame.Bytes → IO Bool
  | [] => return true
  | frame :: rest => do
    match ← s.send token frame with
    | .ok () => deliver s token rest
    | .error _ => return false

def collect : Sink (List Frame.Bytes) := fun frame frames => (frames ++ [frame], true)

/-- Reads the frames of one stream. -/
partial def readStream (s : Shared) (token : Std.CancellationToken) (limit : Nat)
    (socket : TCP.Socket.Client) (c : Connection (List Frame.Bytes)) : IO Unit := do
  let read ← attempt (awaited token (socket.recvSelector 8192))
  match read with
  | .ok none => return
  | .ok (some chunk) =>
    let c := c.step limit collect (match chunk with
      | some data => if data.isEmpty then .ended else .bytes data.toList
      | none => .ended)
    if (← deliver s token c.sink) && c.isOpen then readStream s token limit socket { c with sink := [] }
  | .error _ => return

/-- Accepts streams, and reads each on a thread of its own. -/
partial def acceptStreams (s : Shared) (token : Std.CancellationToken) (limit : Nat)
    (socket : TCP.Socket.Server) (threads : List (Task (Except IO.Error Unit))) : IO Unit := do
  match ← awaited token socket.acceptSelector with
  | some stream =>
    let thread ← (readStream s token limit stream (.start [])).asTask .dedicated
    acceptStreams s token limit socket (thread :: threads)
  | none => threads.forM fun thread => do let _ ← IO.wait thread

/-- Receives datagrams. -/
partial def receiveDatagrams (s : Shared) (token : Std.CancellationToken) (socket : UDP.Socket) :
    IO Unit := do
  match ← awaited token (socket.recvSelector 65536) with
  | some (payload, _) => if ← deliver s token [payload.toList] then receiveDatagrams s token socket
  | none => return

def listen (sockets : Sockets) (s : Shared) (token : Std.CancellationToken) (e : Endpoint) : IO Unit := do
  match ← e.socket.id?.mapM (find sockets) with
  | some (.streamServer socket) => acceptStreams s token e.transport.maxFrameLen socket []
  | some (.datagram socket) => receiveDatagrams s token socket
  | _ => return

/-- Serves until the program is interrupted. The listener ends first, then the channel is closed, then
the workers are told to stop. -/
def serve (sockets : Sockets) (service : Bridge.Service) : IO Unit := do
  let shared ← Shared.new service.channel.channel
  let stopped ← Std.CancellationToken.new
  let told ← Std.CancellationToken.new
  let interrupt ← Signal.Waiter.mk .sigint false
  let workers ← (List.replicate service.workers ()).mapM fun _ =>
    (printMessages shared told).asTask .dedicated
  let listeners ← service.channel.endpoint.toList.mapM fun e =>
    (listen sockets shared stopped e).asTask .dedicated
  let _ ← (← interrupt.wait).block
  shared.cancel stopped
  for listener in listeners do
    let _ ← IO.wait listener
  let _ ← service.channel.shutdown (host sockets)
  shared.close
  shared.cancel told
  for worker in workers do
    let _ ← IO.wait worker

/-- Sends the lines of standard input as they come. -/
partial def sendInput (sockets : Sockets) (d : Distributed .raw) (input : IO.FS.Stream) :
    IO (Except Bridge.Error Unit) := do
  let line ← inputLine input
  match (Text.lines line).head? with
  | none => return .ok ()
  | some line =>
    match ← Bridge.sendLine (host sockets) d line with
    | .ok () => sendInput sockets d input
    | .error e => return .error e
where
  /-- The bytes of the next line. -/
  inputLine (input : IO.FS.Stream) : IO (List UInt8) := do
    let b ← input.read 1
    if b.isEmpty then return []
    else if b[0]! == 10 then return [10]
    else return b[0]! :: (← inputLine input)

def contents (path : String) : IO (Option String) := do
  try return some (← IO.FS.readFile path)
  catch _ => return none

def run (command : Bridge.Command) : IO (Except Bridge.Error Nat) := do
  let sockets ← IO.mkRef #[]
  let file ← command.settingsPath.mapM contents
  let vars := (← Std.Internal.UV.System.osEnviron).toList
  let outcome ← command.start (host sockets) file vars
  match outcome with
  | .sending d [] =>
    let result ← sendInput sockets d (← IO.getStdin)
    let _ ← d.shutdown (host sockets)
    return result.map fun _ => 0
  | .serving service =>
    serve sockets service
    return .ok 0
  | _ => outcome.finish (host sockets) []

def usage : String :=
  "Usage: relay [-v] [-c FILE] serve URL [--workers N]\n       relay [-v] [-c FILE] send URL [MESSAGE...]"

end Relay.Main

open Relay in
def main (args : List String) : IO UInt32 := do
  match Bridge.CommandLine.parse args with
  | .error stop =>
    if stop = .help then IO.println Relay.Main.usage else IO.eprintln Relay.Main.usage
    return stop.exitCode.toUInt32
  | .ok command =>
    let result ← Relay.Main.run command
    if let .error e := result then IO.eprintln e.failure.rendered
    return (Bridge.exitCode result).toUInt32
