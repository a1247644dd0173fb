import Relay.Net.Ipv4
import Relay.Net.Ipv6

namespace Relay

/-- Why the machine refuses a request. -/
inductive SystemError where
  | wouldBlock
  | invalidArgument
  | messageTooLong
  | addressInUse
  | addressNotAvailable
  | noDevice
  | unreachable
  | refused
  | nulInName
  | nameUnknown
  | other (text : String)
  deriving DecidableEq, Repr

namespace SystemError

/-- What the machine says about a refusal. -/
def description : SystemError → String
  | .wouldBlock => "Resource temporarily unavailable"
  | .invalidArgument => "Invalid argument"
  | .messageTooLong => "Message too long"
  | .addressInUse => "Address already in use"
  | .addressNotAvailable => "Cannot assign requested address"
  | .noDevice => "No such device"
  | .unreachable => "Network is unreachable"
  | .refused => "Connection refused"
  | .nulInName => "file name contained an unexpected NUL byte"
  | .nameUnknown => "failed to lookup address information: Name or service not known"
  | .other text => text

def code? : SystemError → Option Nat
  | .wouldBlock => some 11
  | .invalidArgument => some 22
  | .messageTooLong => some 90
  | .addressInUse => some 98
  | .noDevice => some 19
  | .addressNotAvailable => some 99
  | .unreachable => some 101
  | .refused => some 111
  | .nulInName | .nameUnknown | .other _ => none

def message (e : SystemError) : String :=
  match e.code? with
  | some code => e.description ++ s!" (os error {code})"
  | none => e.description

end SystemError

inductive SocketAddress where
  | v4 (host : Ipv4) (port : Nat)
  | v6 (host : Ipv6) (port : Nat)
  deriving DecidableEq, Repr

def SocketAddress.isV4 : SocketAddress → Bool
  | .v4 .. => true
  | .v6 .. => false

/-- Where a socket is: nowhere yet, at a port of all interfaces, or wherever the machine put it. -/
inductive LocalAddress where
  | unbound (isV4 : Bool)
  | port (number : Nat)
  | chosen
  deriving DecidableEq, Repr

inductive SocketSetting where
  | sharesPort
  | neverWaits
  | sendsAtOnce
  | inGroup (group : Ipv4)
  | reach (ttl : Nat)
  deriving DecidableEq, Repr

def SocketSetting.name : SocketSetting → String
  | .sharesPort => "SO_REUSEADDR"
  | .neverWaits => "O_NONBLOCK"
  | .sendsAtOnce => "TCP_NODELAY"
  | .inGroup _ => "IP_ADD_MEMBERSHIP"
  | .reach _ => "IP_MULTICAST_TTL"

/-- The requests that endpoints make. A listener's threads get a handle of their own to the socket. -/
structure Host (m : Type → Type) where
  resolve : (host : String) → (port : Nat) → m (Except SystemError (List SocketAddress))
  openStream : (isV4 : Bool) → m (Except SystemError Nat)
  openDatagram : (isV4 : Bool) → m (Except SystemError Nat)
  configure : (socket : Nat) → SocketSetting → m (Except SystemError Unit)
  bind : (socket : Nat) → (port : Nat) → m (Except SystemError Unit)
  listen : (socket : Nat) → (backlog : Int) → m (Except SystemError Unit)
  connect : (socket : Nat) → SocketAddress → m (Except SystemError Unit)
  duplicate : (socket : Nat) → m (Except SystemError Nat)
  write : (socket : Nat) → List UInt8 → m (Except SystemError Unit)
  sendTo : (socket : Nat) → SocketAddress → List UInt8 → m (Except SystemError Unit)
  localAddress : (socket : Nat) → m (Option LocalAddress)
  startThread : (socket : Nat) → (handle : Nat) → m (Option String)
  stopThreads : (socket : Nat) → m Unit
  close : (socket : Nat) → m Unit
  countSent : (protocol : String) → m Unit

end Relay
