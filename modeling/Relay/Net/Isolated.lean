import Relay.Net.System
import Relay.Power

namespace Relay

/-- A socket of an isolated machine: where it is, whether it is for streams, and whether it listens. -/
structure Isolated.Socket where
  id : Nat
  address : LocalAddress
  isStream : Bool
  isListening : Bool

/-- A machine whose network has no route to anywhere, itself included: the open sockets, the number of
the next one, and how many frames were sent by each protocol. -/
structure Isolated where
  sockets : List Isolated.Socket
  next : Nat
  sent : List (String × Nat)

namespace Isolated

def initial : Isolated := ⟨[], 0, []⟩

def add (s : Isolated) (isV4 isStream : Bool) : Nat × Isolated :=
  let socket : Socket := ⟨s.next, .unbound isV4, isStream, false⟩
  (s.next, { s with sockets := s.sockets ++ [socket], next := s.next + 1 })

def change (s : Isolated) (id : Nat) (f : Socket → Socket) : Isolated :=
  { s with sockets := s.sockets.map fun x => if x.id == id then f x else x }

def isTaken (s : Isolated) (id : Nat) (address : LocalAddress) : Bool :=
  s.sockets.any fun x => x.id == id && x.isStream &&
    s.sockets.any fun y => y.isListening && y.address == address

/-- Puts a socket at a port, unless another one listens there. -/
def bind (s : Isolated) (id port : Nat) : Except SystemError Unit × Isolated :=
  if s.isTaken id (.port port) then (.error .addressInUse, s)
  else (.ok (), s.change id fun x => { x with address := .port port })

/-- Lets a socket listen, unless another one listens where it is. -/
def listen (s : Isolated) (id : Nat) : Except SystemError Unit × Isolated :=
  if s.sockets.any fun x => x.id == id && s.isTaken id x.address then (.error .addressInUse, s)
  else (.ok (), s.change id fun x => { x with isListening := true })

/-- The largest datagram that a machine looks at before its route. -/
def datagramLimit : Nat := 65535

def resolve (host : String) (port : Nat) : Except SystemError (List SocketAddress) :=
  if host.toList.contains '\x00' then .error .nulInName
  else if host == "localhost" then .ok [.v4 ⟨127, 0, 0, 1⟩ port]
  else
    match Ipv4.parse? host, Ipv6.parse? host with
    | some ip, _ => .ok [.v4 ip port]
    | none, some ip => .ok [.v6 ip port]
    | none, none => .error .nameUnknown

/-- Whether multicast datagrams can be given a reach: up to 255 routers, or the greatest number of 32
bits, which stands for the default. -/
def isReach (ttl : Nat) : Bool := ttl ≤ 255 || ttl == 2 ^ 32 - 1

/-- There is no device for multicast groups. -/
def configure : SocketSetting → Except SystemError Unit
  | .inGroup _ => .error .noDevice
  | .reach ttl => if isReach ttl then .ok () else .error .invalidArgument
  | .sharesPort | .neverWaits | .sendsAtOnce => .ok ()

def host : Host (StateM Isolated) where
  resolve name port := return resolve name port
  openStream isV4 := modifyGet fun s =>
    let (id, s) := s.add isV4 true
    (.ok id, s)
  openDatagram isV4 := modifyGet fun s =>
    let (id, s) := s.add isV4 false
    (.ok id, s)
  configure _ setting := return configure setting
  bind id port := modifyGet fun s => s.bind id port
  listen id _ := modifyGet fun s => s.listen id
  connect _ _ := return .error .unreachable
  duplicate _ := modifyGet fun s => (.ok s.next, { s with next := s.next + 1 })
  write _ _ := return .error .unreachable
  sendTo id _ payload := modifyGet fun s =>
    let place (x : Socket) : Socket :=
      match x.address with
      | .unbound _ => { x with address := .chosen }
      | _ => x
    (.error (if datagramLimit < payload.length then .messageTooLong else .unreachable),
      s.change id place)
  localAddress id := return (← get).sockets.find? (·.id == id) |>.map (·.address)
  startThread _ _ := return none
  stopThreads _ := return
  close id := modify fun s => { s with sockets := s.sockets.filter (·.id != id) }
  countSent protocol := modify fun s =>
    { s with sent :=
        if s.sent.any (·.1 == protocol) then
          s.sent.map fun (p, n) => if p == protocol then (p, n + 1) else (p, n)
        else s.sent ++ [(protocol, 1)] }

end Isolated

end Relay
