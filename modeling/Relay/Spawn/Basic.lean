import Relay.Text.Worded

namespace Relay.Spawn

/-- What happens to a spawn when the pool is full: it waits, or it is refused. -/
inductive Saturation where
  | block
  | reject
  deriving DecidableEq, Repr, Inhabited

namespace Saturation

def word : Saturation → String
  | .block => "block"
  | .reject => "reject"

instance : Worded Saturation := ⟨[.block, .reject], word⟩

/-- The name of a policy in debug text. -/
def label (s : Saturation) : String := camelCase s.word

end Saturation

/-- How many tasks may run at once, what happens beyond that, and how threads are named. -/
structure Config where
  limit : Option Nat
  saturation : Saturation
  namePrefix : String
  deriving DecidableEq, Repr, Inhabited

namespace Config

def unbounded : Config := ⟨none, .block, "strand-go"⟩

def bounded (limit : Nat) (saturation : Saturation) : Config :=
  { unbounded with limit := some limit, saturation }

def withNamePrefix (c : Config) (namePrefix : String) : Config := { c with namePrefix }

def threadName (c : Config) (id : Nat) : String := c.namePrefix ++ "-" ++ toString id

end Config

inductive Error where
  | noThread (cause : String)
  | saturated (limit : Nat)
  | notPermitted
  deriving DecidableEq, Repr

def Error.message : Error → String
  | .noThread cause => "failed to spawn goroutine thread: " ++ cause
  | .saturated limit => s!"goroutine limit of {limit} reached"
  | .notPermitted => "spawning goroutines is not permitted"

end Relay.Spawn
