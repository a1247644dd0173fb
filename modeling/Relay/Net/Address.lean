import Relay.Text.Split

namespace Relay

/-- How messages travel: inside the process, over a stream, as datagrams, or to a multicast group. -/
inductive Protocol where
  | inproc | tcp | udp | ipc | pgm | epgm
  deriving DecidableEq, Repr, Inhabited

namespace Protocol

def all : List Protocol := [.inproc, .tcp, .udp, .ipc, .pgm, .epgm]

def scheme : Protocol → String
  | .inproc => "inproc"
  | .tcp => "tcp"
  | .udp => "udp"
  | .ipc => "ipc"
  | .pgm => "pgm"
  | .epgm => "epgm"

def ofScheme? (scheme : String) : Option Protocol := all.find? (·.scheme == scheme)

def label (p : Protocol) : String := p.scheme.capitalize

def requiresPort : Protocol → Bool
  | .inproc | .ipc => false
  | _ => true

def isNetwork : Protocol → Bool
  | .inproc => false
  | _ => true

def isDatagram : Protocol → Bool
  | .udp | .pgm | .epgm => true
  | _ => false

def isMulticast : Protocol → Bool
  | .pgm | .epgm => true
  | _ => false

end Protocol

/-- What is wrong with the text of an address, beside its scheme, host and port. -/
inductive Address.Malformation where
  | noSeparator
  | unterminatedBracket
  | emptyBracket
  | textAfterBracket
  | bareColons
  | serverWithHost
  deriving DecidableEq, Repr

def Address.Malformation.message : Address.Malformation → String
  | .noSeparator => "missing '://' separator"
  | .unterminatedBracket => "unterminated IPv6 address"
  | .emptyBracket => "empty IPv6 address"
  | .textAfterBracket => "unexpected characters after IPv6 address"
  | .bareColons => "IPv6 addresses must be enclosed in brackets"
  | .serverWithHost => "server endpoints cannot name a host"

inductive Address.Error where
  | malformed (url : String) (cause : Address.Malformation)
  | unknownScheme (scheme : String)
  | invalidPort (url port : String)
  | missingPort (url : String)
  | missingHost (url : String)
  deriving DecidableEq, Repr

def Address.Error.message : Address.Error → String
  | .malformed url cause => "invalid endpoint URL '" ++ url ++ "': " ++ cause.message
  | .unknownScheme scheme => "unknown endpoint scheme '" ++ scheme ++ "'"
  | .invalidPort url port => "invalid port '" ++ port ++ "' in endpoint URL '" ++ url ++ "'"
  | .missingPort url => "endpoint URL '" ++ url ++ "' requires a port"
  | .missingHost url => "client endpoint URL '" ++ url ++ "' requires a host"

/-- The address of an endpoint. -/
structure Address where
  protocol : Protocol
  host : String
  port : Option Nat
  isServer : Bool
  deriving DecidableEq, Repr, Inhabited

namespace Address

/-- The host of every server: all interfaces. -/
def anyHost : String := "0.0.0.0"

/-- The host and, if there is one, the text of the port, of what follows the scheme and the star. -/
def splitHost : List Char → Except Malformation (List Char × Option (List Char))
  | '[' :: bracketed =>
    match Text.splitAtFirst? [']'] bracketed with
    | none => .error .unterminatedBracket
    | some ([], _) => .error .emptyBracket
    | some (host, []) => .ok (host, none)
    | some (host, ':' :: port) => .ok (host, some port)
    | some (_, _) => .error .textAfterBracket
  | cs =>
    match Text.splitAtLast? ':' cs with
    | none => .ok (cs, none)
    | some (host, port) => if host.contains ':' then .error .bareColons else .ok (host, some port)

def readPort? (cs : List Char) : Option Nat := (Text.unsigned? 65536 cs).filter (· ≠ 0)

def parseAfterScheme (url : String) (protocol : Protocol) (cs : List Char) : Except Error Address :=
  let (isServer, cs) := match cs with
    | '*' :: rest => (true, rest)
    | _ => (false, cs)
  match splitHost cs with
  | .error cause => .error (.malformed url cause)
  | .ok (host, portText) =>
    if isServer && !host.isEmpty then .error (.malformed url .serverWithHost)
    else if !isServer && host.isEmpty then .error (.missingHost url)
    else
      let host := if isServer then anyHost else String.ofList host
      match portText with
      | none => if protocol.requiresPort then .error (.missingPort url) else .ok ⟨protocol, host, none, isServer⟩
      | some portText =>
        match readPort? portText with
        | none => .error (.invalidPort url (String.ofList portText))
        | some port => .ok ⟨protocol, host, some port, isServer⟩

def parse (url : String) : Except Error Address :=
  match Text.splitAtFirst? "://".toList url.toList with
  | none => .error (.malformed url .noSeparator)
  | some (scheme, rest) =>
    match Protocol.ofScheme? (String.ofList scheme) with
    | none => .error (.unknownScheme (String.ofList scheme))
    | some protocol => parseAfterScheme url protocol rest

def hostChars (a : Address) : List Char :=
  if a.isServer then ['*']
  else if a.host.toList.contains ':' then '[' :: a.host.toList ++ [']']
  else a.host.toList

def portChars (a : Address) : List Char :=
  match a.port with
  | some port => ':' :: (toString port).toList
  | none => []

def text (a : Address) : String :=
  String.ofList (a.protocol.scheme.toList ++ "://".toList ++ a.hostChars ++ a.portChars)

def requiredPort (a : Address) : Except Error Nat :=
  match a.port with
  | some port => .ok port
  | none => .error (.missingPort a.text)

end Address

end Relay
