import Relay.Duration
import Relay.Net.Ipv4
import Relay.Settings
import Relay.Wire.Frame

namespace Relay

/-- How many connections may wait to be accepted, the longest frame, how often listeners look for a
shutdown, and the group and reach of multicast messages. -/
structure Transport where
  backlog : Int
  maxFrameLen : Nat
  pollInterval : Duration
  multicastGroup : Ipv4
  multicastTtl : Nat
  deriving DecidableEq, Repr, Inhabited

namespace Transport

/-- Ten waiting connections, frames of up to sixteen mebibytes, ten looks a second, and a group that
stays on the local network. -/
def standard : Transport := ⟨10, Frame.defaultLimit, .ofMillis 100, ⟨239, 192, 0, 1⟩, 1⟩

/-- The transport that settings ask for; what they leave open is standard. -/
def ofSettings (s : Settings) : Except Settings.Error Transport := do
  let backlog ← s.findD "transport.tcp_backlog" (.integer "i32" (-2 ^ 31) (2 ^ 31 - 1)) standard.backlog
  let maxFrameLen ← s.findD "transport.max_frame_len" .size standard.maxFrameLen
  let millis ← s.find "transport.poll_interval_ms" (.natural "u64" 64)
  let group ← s.findD "transport.multicast_group" .ipv4 standard.multicastGroup
  if !group.isMulticast then
    throw (.wrongKind "transport.multicast_group" "IPv4 multicast address" group.text)
  let ttl ← s.findD "transport.multicast_ttl" (.natural "u32" 32) standard.multicastTtl
  let pollInterval := millis.elim standard.pollInterval fun ms => .ofMillis (max ms 1)
  return ⟨backlog, maxFrameLen, pollInterval, group, ttl⟩

end Transport

end Relay
