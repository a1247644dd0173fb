import Relay.Power

namespace Relay

/-- An operation that must be permitted: opening sockets, or starting threads. -/
inductive Capability where
  | network
  | spawn
  deriving DecidableEq, Repr

namespace Capability

def all : List Capability := [.network, .spawn]

def name : Capability → String
  | .network => "network"
  | .spawn => "spawn"

end Capability

structure Permissions where
  denied : List Capability
  deriving DecidableEq, Repr

namespace Permissions

def allowAll : Permissions := ⟨[]⟩

def permits (p : Permissions) (c : Capability) : Bool := !p.denied.contains c

def denying (names : List String) : Permissions :=
  ⟨Capability.all.filter fun c => names.contains c.name⟩

end Permissions

/-- What the runtime consults besides its own state. -/
structure RuntimeContext where
  now : Nat
  permissions : Permissions
  deriving DecidableEq, Repr

namespace RuntimeContext

/-- The clock at its start, and nothing denied. -/
def initial : RuntimeContext := ⟨0, .allowAll⟩

/-- Moves the clock, a counter of 64 bits, forward. -/
def advance (context : RuntimeContext) (nanos : Nat) : RuntimeContext :=
  { context with now := (context.now + nanos) % 2 ^ 64 }

def rewind (context : RuntimeContext) (nanos : Nat) : RuntimeContext :=
  context.advance (2 ^ 64 - nanos % 2 ^ 64)

def readings (context : RuntimeContext) : List Nat → List Nat
  | [] => []
  | nanos :: rest =>
    let next := context.advance nanos
    next.now :: next.readings rest

def debugText (_ : RuntimeContext) : String := "RuntimeContext \x7b .. \x7d"

end RuntimeContext

end Relay
