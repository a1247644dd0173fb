import Relay.Proofs.Supervision.History
import Relay.Proofs.Supervision.Moves

namespace Relay.Dependencies

theorem size_mark (d : Dependencies) (child on : Nat) : (d.mark child on).size = d.size :=
  List.length_modify _ _ _

theorem size_grow (d : Dependencies) : d.grow.size = d.size + 1 := by simp [grow, size]

theorem size_add (d : Dependencies) (child on : Nat) : (d.add child on).2.size = d.size := by
  unfold add
  split
  · rfl
  · split
    · rfl
    · exact size_mark d child on

end Relay.Dependencies

namespace Relay.Supervisor

open Supervision

/-- `t` differs from `s` at most in its status, in how its children do, and in what tells of it. -/
structure Confined (s t : Supervisor) : Prop where
  eq : t = { s with
    status := t.status, children := t.children, instances := t.instances, tracked := t.tracked
    events := t.events, waiters := t.waiters, failures := t.failures, restarts := t.restarts }
  roster : t.children.map Child.post = s.children.map Child.post

variable {s t u : Supervisor} {i : Nat} {denied : Denials}

namespace Confined

theorem refl (s : Supervisor) : Confined s s := ⟨rfl, rfl⟩

theorem trans (hst : Confined s t) (htu : Confined t u) : Confined s u where
  eq := by
    rw [htu.eq, hst.eq]
  roster := htu.roster.trans hst.roster

theorem budget (h : Confined s t) : t.budget = s.budget := by rw [h.eq]

theorem strategy (h : Confined s t) : t.strategy = s.strategy := by rw [h.eq]

theorem dependencies (h : Confined s t) : t.dependencies = s.dependencies := by rw [h.eq]

theorem children_length (h : Confined s t) : t.children.length = s.children.length := by
  simpa using congrArg List.length h.roster

end Confined

theorem Move.confined (h : Move s t) : Confined s t := by
  cases h with
  | record heq hroster =>
    refine ⟨?_, hroster⟩
    rw [heq]
  | drop i heq =>
    subst heq
    refine ⟨by rw [dropHandle_eq], ?_⟩
    rw [dropHandle_children]
    exact map_post_modify s.children i fun _ => rfl
  | launch i c _ heq =>
    subst heq
    exact ⟨rfl, map_post_modify s.children i fun _ => rfl⟩

theorem Moves.confined (h : Moves s t) : Confined s t := by
  induction h with
  | refl => exact .refl s
  | tail _ hlast ih => exact ih.trans hlast.confined

theorem restartTarget_confined (s : Supervisor) (i : Nat) :
    Confined s (restartTarget denied s i) :=
  (restartTarget_moves s i).confined

/-- Apart from how its children do, the failure of a child is charged to the budget, and no more. -/
theorem handleFailure_confined (s : Supervisor) (i : Nat) (failure : Failure) (now : Nat)
    (denied : Denials) :
    Confined { s with budget := s.charged now } (s.handleFailure i failure now denied) :=
  (handleFailure_moves s i failure now denied).confined

theorem register_confined (s : Supervisor) (task : Task) (denied : Denials) :
    Confined s (s.register task denied).2 ∨
    ∃ name, Confined (s.enroll name task) (s.register task denied).2 := by
  rcases register_moves s task denied with hmoves | ⟨name, hmoves⟩
  · exact .inl hmoves.confined
  · exact .inr ⟨name, hmoves.confined⟩

theorem addDependency_eq (s : Supervisor) (child on : Nat) : ∃ dependencies : Dependencies,
    dependencies.size = s.dependencies.size ∧
    (s.addDependency child on).2 = { s with dependencies } := by
  refine ⟨_, Dependencies.size_add s.dependencies child on, ?_⟩
  unfold addDependency
  generalize s.dependencies.add child on = answered
  obtain ⟨refusal | _, dependencies⟩ := answered
  · cases refusal <;> rfl
  · rfl

theorem beginStop_confined (s : Supervisor) :
    ∃ closers stoppers, Confined { s with closers, stoppers } s.beginStop.2 := by
  cases ha : s.status.isActive with
  | true =>
    rw [beginStop_active ha]
    refine ⟨[], s.stoppers ++ [⟨.taking, s.closers⟩], rfl, map_post_map s.children fun c => ?_⟩
    unfold Child.halted
    split <;> rfl
  | false =>
    rw [beginStop_inactive ha]
    exact ⟨s.closers, s.stoppers, .refl s⟩

theorem stopStep_confined (s : Supervisor) (j : Nat) :
    ∃ channels stoppers, Confined { s with channels, stoppers } ((s.stopStep j).getD s) := by
  unfold stopStep
  split
  · exact ⟨s.channels, s.stoppers, .refl s⟩
  · split
    · exact ⟨s.channels, _, rfl, rfl⟩
    · split
      · exact ⟨_, _, rfl, rfl⟩
      · exact ⟨s.channels, s.stoppers, .refl s⟩
    · exact ⟨s.channels, _, rfl, rfl⟩
    · exact ⟨s.channels, s.stoppers, .refl s⟩

/-- What the clock reads when an action is a failure that the supervisor answers. -/
def reading? (s : Supervisor) : Action → Option Nat
  | .reportFailure i _ now _ =>
    match s.ensureChild i with
    | .ok () => some now
    | .error _ => none
  | .exit k (.error _) now _ =>
    if s.instances[k]?.any fun inst => inst.live && s.accepts inst then some now else none
  | _ => none

/-- An action that starts the count of failures anew. -/
def resetsBudget (s : Supervisor) : Action → Prop
  | .strategy _ => True
  | .start _ => s.starts
  | _ => False

theorem exit_confined (s : Supervisor) (k : Nat) (result : Except Failure Unit) (now : Nat)
    (denied : Denials) : Confined
      { s with budget := ((s.reading? (.exit k result now denied)).map s.charged).getD s.budget }
      (s.exit k result now denied) := by
  cases hk : s.instances[k]? with
  | none =>
    have hnone : s.reading? (.exit k result now denied) = none := by
      cases result <;> simp [reading?, hk]
    simp only [exit, hk, hnone]
    exact .refl s
  | some inst =>
    cases hlive : inst.live with
    | false =>
      have hnone : s.reading? (.exit k result now denied) = none := by
        cases result <;> simp [reading?, hk, hlive]
      simp only [exit, hk, hlive, hnone]
      exact .refl s
    | true =>
      simp only [exit, hk, hlive, if_true]
      refine Confined.trans (t := s.childExited inst result now denied) ?_ ⟨rfl, rfl⟩
      cases ha : s.accepts inst with
      | false =>
        have hnone : s.reading? (.exit k result now denied) = none := by
          cases result <;> simp [reading?, hk, ha]
        rw [childExited_refused ha, hnone]
        exact .refl s
      | true =>
        cases result with
        | ok =>
          simp only [childExited, ha, if_true]
          exact (complete_moves s inst.child).confined
        | error failure =>
          simp only [childExited, ha, if_true, reading?, hk, hlive, Option.any_some, Bool.and_self]
          exact handleFailure_confined s inst.child failure now denied

theorem act_budget {a : Action} (h : ¬ s.resetsBudget a) :
    (s.act a).strategy = s.strategy ∧
    (s.act a).budget = ((s.reading? a).map s.charged).getD s.budget := by
  cases a with
  | register task denied =>
    rcases register_confined s task denied with hconfined | ⟨name, hconfined⟩ <;>
      exact ⟨hconfined.strategy, hconfined.budget⟩
  | addDependency child on =>
    obtain ⟨dependencies, -, heq⟩ := addDependency_eq s child on
    rw [act, heq]
    exact ⟨rfl, rfl⟩
  | strategy strategy => exact (h trivial).elim
  | start denied =>
    obtain ⟨init, heq⟩ := start_refused h denied
    rw [act, heq]
    exact ⟨rfl, rfl⟩
  | beginStop =>
    obtain ⟨closers, stoppers, hconfined⟩ := beginStop_confined s
    exact ⟨hconfined.strategy, hconfined.budget⟩
  | stopStep j =>
    obtain ⟨channels, stoppers, hconfined⟩ := stopStep_confined s j
    exact ⟨hconfined.strategy, hconfined.budget⟩
  | restartChild i denied =>
    simp only [act, restartChild, reading?]
    split
    · exact ⟨rfl, rfl⟩
    · exact ⟨restart_moves.confined.strategy, restart_moves.confined.budget⟩
  | reportFailure i failure now denied =>
    simp only [act, reportFailure, reading?]
    split
    · rename_i e hrefused
      rw [hrefused]
      exact ⟨rfl, rfl⟩
    · rename_i haccepted
      have hconfined := handleFailure_confined s i failure now denied
      rw [haccepted]
      exact ⟨hconfined.strategy, hconfined.budget⟩
  | exit k result now denied =>
    have hconfined := exit_confined s k result now denied
    exact ⟨hconfined.strategy, hconfined.budget⟩
  | superviseChannel | settings | events | progress | wait | waitLook => exact ⟨rfl, rfl⟩

theorem act_dependencies_size (h : s.dependencies.size = s.children.length) (a : Action) :
    (s.act a).dependencies.size = (s.act a).children.length := by
  have hkeep {r t : Supervisor} (hconfined : Confined r t)
      (hr : r.dependencies.size = r.children.length) :
      t.dependencies.size = t.children.length := by
    rw [hconfined.dependencies, hconfined.children_length, hr]
  cases a with
  | register task denied =>
    rcases register_confined s task denied with hconfined | ⟨name, hconfined⟩
    · exact hkeep hconfined h
    · refine hkeep hconfined ?_
      simp [enroll, Dependencies.size_grow, h]
  | addDependency child on =>
    obtain ⟨dependencies, hsize, heq⟩ := addDependency_eq s child on
    simp only [act, heq]
    exact hsize.trans h
  | start denied =>
    by_cases hstarts : s.starts
    · exact hkeep (start_moves hstarts).confined h
    · obtain ⟨init, heq⟩ := start_refused hstarts denied
      simp only [act, heq]
      exact h
  | beginStop =>
    obtain ⟨closers, stoppers, hconfined⟩ := beginStop_confined s
    exact hkeep hconfined h
  | stopStep j =>
    obtain ⟨channels, stoppers, hconfined⟩ := stopStep_confined s j
    exact hkeep hconfined h
  | restartChild i denied =>
    simp only [act, restartChild]
    split
    · exact h
    · exact hkeep restart_moves.confined h
  | reportFailure i failure now denied =>
    simp only [act, reportFailure]
    split
    · exact h
    · exact hkeep (handleFailure_confined s i failure now denied) h
  | exit k result now denied =>
    exact hkeep (exit_confined s k result now denied) h
  | superviseChannel | strategy | settings | events | progress | wait | waitLook => exact h

theorem Reachable.dependencies_size (hs : Reachable s) :
    s.dependencies.size = s.children.length := by
  induction hs with
  | create hc =>
    simp only [Supervisor.create] at hc
    split at hc <;> cases hc
    rfl
  | act _ a ih => exact act_dependencies_size ih a

end Relay.Supervisor
