import Relay.Duration

namespace Relay

inductive Shutdown.Origin where
  | paired
  | linked
  | detached
  deriving DecidableEq, Repr

/-- A shutdown signal, and whether someone still holds its handle. -/
structure Shutdown where
  origin : Shutdown.Origin
  raised : Bool
  held : Bool
  deriving DecidableEq, Repr

namespace Shutdown

def paired : Shutdown := ⟨.paired, false, true⟩

def linked : Shutdown := ⟨.linked, false, false⟩

/-- A signal that nothing raises but its own token. -/
def detached : Shutdown := ⟨.detached, false, false⟩

def raise (s : Shutdown) : Shutdown := { s with raised := true }

def trigger (s : Shutdown) : Shutdown := if s.held then s.raise else s

/-- Drops the handle, which raises the signal. -/
def drop (s : Shutdown) : Shutdown := if s.held then { s.raise with held := false } else s

/-- Cancels the token that the signal was linked to; another signal takes no notice. -/
def cancelLink (s : Shutdown) : Shutdown := if s.origin = .linked then s.raise else s

/-- What waiting gives once nothing else will happen: whether the signal was raised. A wait without
a deadline only ends with the signal. -/
def waited (s : Shutdown) (timeout : Option Duration) : Bool := s.raised || timeout.isNone

end Shutdown

end Relay
