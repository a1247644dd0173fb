import Mathlib.Data.List.Infix
import Relay.Supervision.Handling
import Relay.Supervision.Lifecycle

namespace Relay.Supervisor

open Supervision

/-- What can happen to a supervisor at once. A call of stop is its first half, followed by the steps
of its stopper; `events` stands for everything others do with the event channel. -/
inductive Action where
  | register (task : Task) (denied : Denials)
  | addDependency (child on : Nat)
  | superviseChannel
  | strategy (strategy : RestartStrategy)
  | settings (dynamic escalates : Bool) (init : List (Option Failure))
  | events (channel : Option (Channel Event))
  | start (denied : Denials)
  | beginStop
  | stopStep (stopper : Nat)
  | restartChild (child : Nat) (denied : Denials)
  | reportFailure (child : Nat) (failure : Failure) (now : Nat) (denied : Denials)
  | exit (number : Nat) (result : Except Failure Unit) (now : Nat) (denied : Denials)
  | progress (number : Nat) (activity : Activity)
  | wait (wanted : Status) (timeout : Duration) (asked now : Nat)
  | waitLook (waiter now : Nat)

/-- The supervisor after an action; a step that cannot be taken leaves it as it was. -/
def act (s : Supervisor) : Action → Supervisor
  | .register task denied => (s.register task denied).2
  | .addDependency child on => (s.addDependency child on).2
  | .superviseChannel => s.superviseChannel
  | .strategy strategy => s.withStrategy strategy
  | .settings dynamic escalates init => { s with dynamic, escalates, init }
  | .events channel => { s with events := channel }
  | .start denied => (s.start denied).2
  | .beginStop => s.beginStop.2
  | .stopStep j => (s.stopStep j).getD s
  | .restartChild i denied => (s.restartChild i denied).2
  | .reportFailure i failure now denied => (s.reportFailure i failure now denied).2
  | .exit k result now denied => s.exit k result now denied
  | .progress k activity =>
    { s with instances := s.instances.modify k fun inst => { inst with activity } }
  | .wait wanted timeout asked now => s.wait wanted timeout asked now
  | .waitLook w now => s.waitLook w now

/-- The states that a supervisor can be in between two critical sections. -/
inductive Reachable : Supervisor → Prop
  | create {name : String} {s : Supervisor} : create name = .ok s → Reachable s
  | act {s : Supervisor} : Reachable s → (a : Action) → Reachable (s.act a)

section Create

variable {name : String} {s : Supervisor}

theorem create_children (hs : create name = .ok s) : s.children = [] := by
  unfold create at hs
  split at hs <;> cases hs
  rfl

theorem create_status (hs : create name = .ok s) : s.status = .created := by
  unfold create at hs
  split at hs <;> cases hs
  rfl

theorem create_instances (hs : create name = .ok s) : s.instances = [] := by
  unfold create at hs
  split at hs <;> cases hs
  rfl

end Create

/-- The supervisor after a history, whose latest action comes first. -/
def after (s : Supervisor) : List Action → Supervisor
  | [] => s
  | a :: earlier => (after s earlier).act a

theorem Reachable.after {s : Supervisor} (hs : Reachable s) (history : List Action) :
    Reachable (s.after history) := by
  induction history with
  | nil => exact hs
  | cons a earlier ih => exact ih.act a

/-- A property holds all along a history exactly when none of its actions is of the kind that breaks
it. -/
theorem holds_throughout_iff {P : Supervisor → Prop} {breaks : Supervisor → Action → Prop}
    {s : Supervisor} (hs : Reachable s) (hP : P s)
    (hstep : ∀ t a, Reachable t → P t → ¬ breaks t a → P (t.act a))
    (hbreak : ∀ t a, Reachable t → breaks t a → ¬ P (t.act a)) (history : List Action) :
    (∀ earlier, earlier <:+ history → P (s.after earlier)) ↔
      ∀ a earlier, a :: earlier <:+ history → ¬ breaks (s.after earlier) a := by
  constructor
  · intro hall a earlier hsuffix hb
    exact hbreak _ a (hs.after earlier) hb (hall (a :: earlier) hsuffix)
  · intro hnone earlier hsuffix
    induction earlier with
    | nil => exact hP
    | cons a earlier ih =>
      have hshorter : earlier <:+ history := (List.suffix_cons a earlier).trans hsuffix
      exact hstep _ a (hs.after earlier) (ih hshorter) (hnone a earlier hsuffix)

theorem exists_turn {P : Supervisor → Prop} {s : Supervisor} {earlier later : List Action}
    (h : P (s.after earlier)) (hnot : ¬ P (s.after (later ++ earlier))) :
    ∃ first a rest, later = rest ++ a :: first ∧ P (s.after (first ++ earlier)) ∧
      ¬ P ((s.after (first ++ earlier)).act a) := by
  induction later with
  | nil => exact (hnot h).elim
  | cons a later ih =>
    by_cases hlast : P (s.after (later ++ earlier))
    · exact ⟨later, a, [], rfl, hlast, hnot⟩
    · obtain ⟨first, b, rest, rfl, hP, hturn⟩ := ih hlast
      exact ⟨first, b, a :: rest, rfl, hP, hturn⟩

end Relay.Supervisor
