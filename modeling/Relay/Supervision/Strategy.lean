import Relay.Duration
import Relay.Text.Worded

namespace Relay

/-- Which children are restarted when one fails: that one, all of them, or that one and those that
depend on it. -/
inductive RestartPolicy where
  | oneForOne
  | oneForAll
  | restForOne
  deriving DecidableEq, Repr, Inhabited

namespace RestartPolicy

def word : RestartPolicy → String
  | .oneForOne => "one_for_one"
  | .oneForAll => "one_for_all"
  | .restForOne => "rest_for_one"

instance : Worded RestartPolicy := ⟨[.oneForOne, .oneForAll, .restForOne], word⟩

def label (p : RestartPolicy) : String := camelCase p.word

def code : RestartPolicy → Nat
  | .oneForOne => 0
  | .oneForAll => 1
  | .restForOne => 2

end RestartPolicy

/-- A policy, and the restarts that are allowed within one window. -/
structure RestartStrategy where
  policy : RestartPolicy
  maxRestarts : Nat
  window : Duration
  deriving DecidableEq, Repr, Inhabited

namespace RestartStrategy

/-- One for one, with three restarts within five seconds. -/
def standard : RestartStrategy := ⟨.oneForOne, 3, .ofSeconds 5⟩

def withPolicy (s : RestartStrategy) (policy : RestartPolicy) : RestartStrategy :=
  { s with policy }

def withBudget (s : RestartStrategy) (maxRestarts : Nat) (window : Duration) : RestartStrategy :=
  { s with maxRestarts, window }

def debugText (s : RestartStrategy) : String :=
  "RestartStrategy \x7b policy: " ++ s.policy.label ++ ", max_restarts: " ++ toString s.maxRestarts ++
    ", time_window: " ++ s.window.text ++ " \x7d"

end RestartStrategy

/-- The failures counted in the current window, and when the window was opened, if one was. -/
structure RestartBudget where
  count : Nat
  opened : Option Nat
  deriving DecidableEq, Repr, Inhabited

namespace RestartBudget

/-- No failure counted, and no window open. -/
def fresh : RestartBudget := ⟨0, none⟩

/-- Whether a failure at `now` falls outside the window. -/
def expired (b : RestartBudget) (window : Duration) (now : Nat) : Bool :=
  match b.opened with
  | some opened => window.nanos < now - opened
  | none => true

/-- Counts a failure at `now`, opening a new window when there is none or the last one is over. -/
def charge (b : RestartBudget) (window : Duration) (now : Nat) : RestartBudget :=
  if b.expired window now then ⟨1, some now⟩ else { b with count := b.count + 1 }

/-- Whether the last failure counted may be answered by a restart. -/
def admits (b : RestartBudget) (s : RestartStrategy) : Bool := b.count ≤ s.maxRestarts

end RestartBudget

end Relay
