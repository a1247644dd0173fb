import Relay.Proofs.Supervision.Operations

namespace Relay.Supervision

/-- The part of a record that is given when a child is registered. -/
def Child.post (c : Child) : Name × Task := (c.name, c.task)

theorem map_post_modify (children : List Child) (i : Nat) {f : Child → Child}
    (hf : ∀ c, (f c).post = c.post) : (children.modify i f).map Child.post =
      children.map Child.post :=
  map_modify hf

theorem map_post_map (children : List Child) {f : Child → Child} (hf : ∀ c, (f c).post = c.post) :
    (children.map f).map Child.post = children.map Child.post := by
  rw [List.map_map]
  exact List.map_congr_left fun c _ => hf c

end Relay.Supervision

namespace Relay.Supervisor

open Supervision Relation

/-- One move; it leaves the budget, the strategy, the channels and the calls of stop alone. -/
inductive Move (s t : Supervisor) : Prop
  | record (heq : t = { s with
      status := t.status, children := t.children, events := t.events, waiters := t.waiters
      failures := t.failures, restarts := t.restarts })
      (hroster : t.children.map Child.post = s.children.map Child.post)
  | drop (i : Nat) (heq : t = s.dropHandle i)
  | launch (i : Nat) (c : Child) (hc : s.children[i]? = some c) (heq : t = s.launch i c)

abbrev Moves : Supervisor → Supervisor → Prop := ReflTransGen Move

variable {s : Supervisor} {i : Nat} {denied : Denials}

theorem modifyChild_move (s : Supervisor) (i : Nat) {f : Child → Child}
    (hf : ∀ c, (f c).post = c.post) : Move s (s.modifyChild i f) :=
  .record rfl (map_post_modify s.children i hf)

theorem emit_move (s : Supervisor) (event : Event) : Move s (s.emit event) := .record rfl rfl

theorem notifyAll_move (s : Supervisor) : Move s s.notifyAll := .record rfl rfl

theorem dropHandles_moves (s : Supervisor) : Moves s s.dropHandles :=
  dropHandles_induction (P := Moves s) (fun _ i ht => ht.tail (.drop i rfl)) .refl

theorem spawnChild_moves : Moves s (s.spawnChild i denied).2 := by
  cases hc : s.children[i]? with
  | none =>
    simp only [spawnChild, hc]
    exact .refl
  | some c =>
    cases hd : denied i with
    | none =>
      rw [spawnChild_permitted hc hd]
      exact .single (.launch i c hc rfl)
    | some e =>
      rw [spawnChild_denied hc hd]
      exact .single (modifyChild_move s i fun _ => rfl)

theorem restart_moves : Moves s (s.restart i denied).2 := by
  have hspawned : Moves s (s.spawnChild i denied).2 := spawnChild_moves
  unfold restart
  split
  · rename_i e after heq
    rw [heq] at hspawned
    exact hspawned
  · rename_i after heq
    rw [heq] at hspawned
    apply hspawned.tail
    exact .record rfl (map_post_modify after.children i fun _ => rfl)

theorem restartTarget_moves (s : Supervisor) (i : Nat) : Moves s (restartTarget denied s i) := by
  have hrestarted : Moves s (s.restart i denied).2 := restart_moves
  unfold restartTarget
  split
  · rename_i after heq
    rw [heq] at hrestarted
    exact hrestarted
  · rename_i e after heq
    rw [heq] at hrestarted
    apply hrestarted.tail
    exact .record rfl (map_post_modify after.children i fun _ => rfl)

theorem restartTargets_moves (indices : List Nat) (s : Supervisor) :
    Moves s (indices.foldl (restartTarget denied) s) := by
  induction indices generalizing s with
  | nil => exact .refl
  | cons i indices ih => exact (restartTarget_moves s i).trans (ih _)

theorem recordFailure_moves (s : Supervisor) (i : Nat) (failure : Failure) :
    Moves s (s.recordFailure i failure) := by
  have hfailed : Moves s (s.modifyChild i Child.faulty) := .single (modifyChild_move s i fun _ => rfl)
  have hdropped := hfailed.tail (.drop i rfl)
  exact hdropped.tail (.record rfl rfl)

theorem accountFor_charged (s : Supervisor) (i : Nat) (failure : Failure) (now : Nat) :
    s.accountFor i failure now = recordFailure { s with budget := s.charged now } i failure := by
  unfold accountFor recordFailure dropHandle
  simp only [modifyChild]
  split <;> rfl

/-- Apart from its charge to the budget, the failure of a child is answered by moves. -/
theorem handleFailure_moves (s : Supervisor) (i : Nat) (failure : Failure) (now : Nat)
    (denied : Denials) :
    Moves { s with budget := s.charged now } (s.handleFailure i failure now denied) := by
  have haccount : Moves { s with budget := s.charged now } (s.accountFor i failure now) := by
    rw [accountFor_charged]
    exact recordFailure_moves _ i failure
  rw [handleFailure_eq]
  split
  · exact haccount.trans (restartTargets_moves _ _)
  · exact haccount.tail (.record rfl rfl)

theorem complete_moves (s : Supervisor) (i : Nat) : Moves s (s.complete i) :=
  .tail (.single (.drop i rfl)) (modifyChild_move _ i fun _ => rfl)

theorem emitStarted_moves (s : Supervisor) (i : Nat) : Moves s (s.emitStarted i) := by
  unfold emitStarted
  split
  · exact .single (emit_move s _)
  · exact .refl

theorem startChildren_moves (denied : Denials) (n i : Nat) (s : Supervisor) :
    Moves s (startChildren denied n i s).2 :=
  startChildren_induction (P := Moves s) n i s .refl (fun _ _ ht => ht.trans spawnChild_moves)
    fun t i ht => ht.trans (emitStarted_moves t i)

theorem abandonStart_moves (s : Supervisor) : Moves s s.abandonStart :=
  (dropHandles_moves s).tail (.record rfl (map_post_map _ fun _ => rfl))

theorem register_moves (s : Supervisor) (task : Task) (denied : Denials) :
    Moves s (s.register task denied).2 ∨
    ∃ name, Moves (s.enroll name task) (s.register task denied).2 := by
  cases hname : s.id.scoped? task.name with
  | none =>
    simp only [register, hname]
    exact .inl .refl
  | some name =>
    cases hopen : s.status.isActive && !s.dynamic with
    | true =>
      simp only [register, hname, hopen, if_true]
      exact .inl .refl
    | false =>
      refine .inr ⟨name, ?_⟩
      rw [register_eq hname hopen]
      have hspawned : Moves (s.enroll name task)
          ((s.enroll name task).spawnChild s.children.length denied).2 := spawnChild_moves
      split
      · split
        · rename_i after heq
          rw [heq] at hspawned
          exact hspawned.trans (emitStarted_moves after _)
        · rename_i e after heq
          rw [heq] at hspawned
          exact hspawned
      · exact .refl

def starts (s : Supervisor) : Prop :=
  s.status.isActive = false ∧ ∀ failure, s.init.head? ≠ some (some failure)

theorem start_refused (h : ¬ s.starts) (denied : Denials) :
    ∃ init, (s.start denied).2 = { s with init } := by
  cases hactive : s.status.isActive with
  | true =>
    simp only [start, hactive, if_true]
    exact ⟨s.init, rfl⟩
  | false =>
    rw [start_eq hactive]
    split
    · exact ⟨s.init.tail, rfl⟩
    · rename_i hhook
      exact (h ⟨hactive, hhook⟩).elim

theorem start_moves (h : s.starts) :
    Moves { s with init := s.init.tail, budget := .fresh } (s.start denied).2 := by
  have hready : Move { s with init := s.init.tail, budget := .fresh } s.readied :=
    .record rfl (map_post_map s.children fun _ => rfl)
  have hstarted := startChildren_moves denied s.children.length 0 s.readied
  rw [start_eq h.1]
  split
  · rename_i failure hhook
    exact (h.2 failure hhook).elim
  · apply ReflTransGen.head hready
    split
    · rename_i after heq
      rw [heq] at hstarted
      exact hstarted.tail (notifyAll_move after)
    · rename_i e after heq
      rw [heq] at hstarted
      exact hstarted.trans (abandonStart_moves after)

theorem childExited_moves (s : Supervisor) (inst : Instance) (result : Except Failure Unit)
    (now : Nat) (denied : Denials) :
    Moves s (s.childExited inst result now denied) ∨
    Moves { s with budget := s.charged now } (s.childExited inst result now denied) := by
  unfold childExited
  split
  · cases result with
    | ok => exact .inl (complete_moves s inst.child)
    | error failure => exact .inr (handleFailure_moves s inst.child failure now denied)
  · exact .inl .refl

end Relay.Supervisor
