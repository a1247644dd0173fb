import Relay.Proofs.Supervision.Changes
import Relay.Supervision.Lifecycle

namespace Relay.Supervisor

open Supervision Relation

variable {loses strands : Nat → Prop} {s t : Supervisor} {i : Nat} {denied : Denials}

theorem ensureChild_ok (h : s.ensureChild i = .ok ()) :
    s.status.isActive = true ∧ i < s.children.length := by
  unfold ensureChild at h
  split at h
  · cases h
  · rename_i hactive
    split at h
    · cases h
    · exact ⟨by simpa using hactive, by omega⟩

theorem restartChild_changes
    (hl : ∀ c, s.children[i]? = some c → c.state = .running → (denied i).isSome → loses i) :
    Changes loses strands s (s.restartChild i denied).2 := by
  unfold restartChild
  split
  · exact .refl
  · rename_i hok
    exact restart_changes (ensureChild_ok hok).1 hl

theorem reportFailure_changes {failure : Failure} {now : Nat}
    (hl : ∀ j, s.ensureChild i = .ok () → s.leavesBehind i now denied j → strands j) :
    Changes loses strands s (s.reportFailure i failure now denied).2 := by
  unfold reportFailure
  split
  · exact .refl
  · rename_i hok
    exact handleFailure_changes (ensureChild_ok hok).1 fun j => hl j hok

def enroll (s : Supervisor) (name : Name) (task : Task) : Supervisor :=
  { s with children := s.children ++ [.fresh name task], dependencies := s.dependencies.grow }

theorem register_eq {task : Task} {name : Name} (hname : s.id.scoped? task.name = some name)
    (hopen : (s.status.isActive && !s.dynamic) = false) : s.register task denied =
    if s.status.isActive then
      match (s.enroll name task).spawnChild s.children.length denied with
      | (.ok (), after) => (.ok s.children.length, after.emitStarted s.children.length)
      | (.error e, after) => (.error e, after)
    else (.ok s.children.length, s.enroll name task) := by
  simp only [register, hname, hopen, Bool.false_eq_true, if_false]
  rfl

theorem register_changes (task : Task) : Changes loses strands s (s.register task denied).2 := by
  cases hname : s.id.scoped? task.name with
  | none =>
    simp only [register, hname]
    exact .refl
  | some name =>
    cases hopen : s.status.isActive && !s.dynamic with
    | true =>
      simp only [register, hname, hopen, if_true]
      exact .refl
    | false =>
      have hadd : Change loses strands s (s.enroll name task) := .add name task rfl rfl rfl
      rw [register_eq hname hopen]
      split
      · rename_i ha
        have hspawn : Changes loses strands (s.enroll name task)
            ((s.enroll name task).spawnChild s.children.length denied).2 := by
          refine spawnChild_changes ha fun c hc hrunning => ?_
          rw [enroll, List.getElem?_concat_length] at hc
          cases hc
          cases hrunning
        apply ReflTransGen.head hadd
        split
        · rename_i after heq
          rw [heq] at hspawn
          exact hspawn.trans emitStarted_changes
        · rename_i e after heq
          rw [heq] at hspawn
          exact hspawn
      · exact .single hadd

theorem emitStarted_eq (s : Supervisor) (i : Nat) :
    s.emitStarted i = { s with events := (s.emitStarted i).events } := by
  unfold emitStarted
  split <;> rfl

theorem spawnChild_frame (s : Supervisor) (i : Nat) (denied : Denials) :
    (s.spawnChild i denied).2 = { s with
      children := (s.spawnChild i denied).2.children
      instances := (s.spawnChild i denied).2.instances
      tracked := (s.spawnChild i denied).2.tracked } := by
  cases hc : s.children[i]? with
  | none => simp only [spawnChild, hc]
  | some c =>
    cases hd : denied i with
    | none =>
      rw [spawnChild_permitted hc hd]
      rfl
    | some e =>
      rw [spawnChild_denied hc hd]
      rfl

theorem restart_frame (s : Supervisor) (i : Nat) (denied : Denials) :
    (s.restart i denied).2 = { s with
      children := (s.restart i denied).2.children
      instances := (s.restart i denied).2.instances
      tracked := (s.restart i denied).2.tracked
      events := (s.restart i denied).2.events
      restarts := (s.restart i denied).2.restarts } := by
  have hspawned := spawnChild_frame s i denied
  unfold restart
  split
  · rename_i e after heq
    rw [heq] at hspawned
    rw [hspawned]
  · rename_i after heq
    rw [heq] at hspawned
    change after = _ at hspawned
    rw [hspawned]
    rfl

theorem register_frame (s : Supervisor) (task : Task) (denied : Denials) :
    (s.register task denied).2 = { s with
      children := (s.register task denied).2.children
      dependencies := (s.register task denied).2.dependencies
      instances := (s.register task denied).2.instances
      tracked := (s.register task denied).2.tracked
      events := (s.register task denied).2.events } := by
  cases hname : s.id.scoped? task.name with
  | none => simp only [register, hname]
  | some name =>
    cases hopen : s.status.isActive && !s.dynamic with
    | true => simp only [register, hname, hopen, if_true]
    | false =>
      have hspawned := spawnChild_frame (s.enroll name task) s.children.length denied
      rw [register_eq hname hopen]
      split
      · split
        · rename_i after heq
          rw [heq] at hspawned
          change after = _ at hspawned
          rw [emitStarted_eq, hspawned]
          rfl
        · rename_i e after heq
          rw [heq] at hspawned
          change after = _ at hspawned
          rw [hspawned]
          rfl
      · rfl

theorem spawnChild_ok {after : Supervisor} (h : s.spawnChild i denied = (.ok (), after)) :
    ∃ c, s.children[i]? = some c ∧ denied i = none ∧ after = s.launch i c := by
  cases hc : s.children[i]? with
  | none => simp [spawnChild, hc] at h
  | some c =>
    cases hd : denied i with
    | none =>
      rw [spawnChild_permitted hc hd] at h
      cases h
      exact ⟨c, rfl, rfl, rfl⟩
    | some e =>
      rw [spawnChild_denied hc hd] at h
      cases h

/-- What the start of one child and the report of it keep, the start of any number of them keeps. -/
theorem startChildren_induction {P : Supervisor → Prop} (n i : Nat) (s : Supervisor) (h : P s)
    (hspawn : ∀ t i, P t → P (t.spawnChild i denied).2)
    (hreport : ∀ t i, P t → P (t.emitStarted i)) : P (startChildren denied n i s).2 := by
  induction n generalizing i s with
  | zero => exact h
  | succ n ih =>
    have hspawned : P (s.spawnChild i denied).2 := hspawn s i h
    unfold startChildren
    split
    · rename_i e after heq
      rw [heq] at hspawned
      exact hspawned
    · rename_i after heq
      rw [heq] at hspawned
      exact ih (i + 1) _ (hreport after i hspawned)

theorem startChildren_changes (n i : Nat) (s : Supervisor) (ha : s.status.isActive = true)
    (hidle : ∀ j c, i ≤ j → s.children[j]? = some c → c.state ≠ .running) :
    Changes loses strands s (startChildren denied n i s).2 := by
  induction n generalizing i s with
  | zero => exact .refl
  | succ n ih =>
    have hfirst : Changes loses strands s (s.spawnChild i denied).2 :=
      spawnChild_changes ha fun c hc hrunning => (hidle i c (Nat.le_refl _) hc hrunning).elim
    unfold startChildren
    split
    · rename_i e after heq
      rw [heq] at hfirst
      exact hfirst
    · rename_i after heq
      obtain ⟨c, hc, -, rfl⟩ := spawnChild_ok heq
      rw [heq] at hfirst
      apply (hfirst.trans emitStarted_changes).trans
      apply ih
      · rw [emitStarted_eq]
        exact ha
      · -- Those that are still to be started are not touched by this one.
        intro j d hj hd
        rw [emitStarted_eq] at hd
        change (s.children.modify i _)[j]? = some d at hd
        rw [List.getElem?_modify_ne _ _ (by omega)] at hd
        exact hidle j d (by omega) hd

theorem abandonStart_change (s : Supervisor) : Change loses strands s s.abandonStart := by
  refine .withdraw rfl ?_ rfl
  change s.dropHandles.children.map (fun c => { c with state := .idle }) = _
  rw [dropHandles_children, List.map_map]
  rfl

/-- A supervisor whose hook has run and which is about to start its children. -/
def readied (s : Supervisor) : Supervisor := { s with init := s.init.tail }.prepareStart

theorem start_eq (hinactive : s.status.isActive = false) : s.start denied =
    match s.init.head? with
    | some (some failure) => (.error (.initFailed failure), { s with init := s.init.tail })
    | _ =>
      match startChildren denied s.children.length 0 s.readied with
      | (.ok (), after) => (.ok (), after.notifyAll)
      | (.error e, after) => (.error e, after.abandonStart) := by
  simp only [start, hinactive, Bool.false_eq_true, if_false]
  rfl

theorem start_changes : Changes loses strands s (s.start denied).2 := by
  cases hactive : s.status.isActive with
  | true =>
    simp only [start, hactive, if_true]
    exact .refl
  | false =>
    have hready : Change loses strands s s.readied := .prepare hactive rfl rfl rfl
    have hstart : Changes loses strands s.readied
        (startChildren denied s.children.length 0 s.readied).2 := by
      apply startChildren_changes _ _ _ rfl
      intro j c _ hc
      change (s.children.map Child.rested)[j]? = some c at hc
      rw [List.getElem?_map, Option.map_eq_some_iff] at hc
      obtain ⟨d, -, rfl⟩ := hc
      nofun
    rw [start_eq hactive]
    split
    · exact .single (.other rfl rfl rfl)
    · apply ReflTransGen.head hready
      split
      · rename_i after heq
        rw [heq] at hstart
        exact hstart.tail notifyAll_change
      · rename_i e after heq
        rw [heq] at hstart
        exact hstart.tail (abandonStart_change after)

/-- A supervisor that a stop found active, and from which it took all handles of its children. -/
def halt (s : Supervisor) : Supervisor :=
  { s with
    status := .stopped
    children := s.children.map Child.halted
    instances := s.dropHandles.instances
    closers := []
    stoppers := s.stoppers ++ [⟨.taking, s.closers⟩]
    waiters := s.notifyAll.waiters }

theorem beginStop_active (h : s.status.isActive = true) :
    s.beginStop = (.ok (.continues s.stoppers.length), s.halt) := by
  have hhalted : (s.dropHandles.children.map fun c =>
      if c.state = .running then { c with state := .stopped } else c) =
      s.children.map Child.halted := by
    rw [dropHandles_children, List.map_map]
    rfl
  unfold beginStop
  split
  · rename_i hs
    rw [hs] at h
    cases h
  · rename_i hs
    rw [hs] at h
    cases h
  · simp only [hhalted]
    rw [dropHandles_eq]
    rfl
  · simp only [hhalted]
    rw [dropHandles_eq]
    rfl

theorem beginStop_inactive (h : s.status.isActive = false) : s.beginStop.2 = s := by
  unfold beginStop
  split
  · rfl
  · rfl
  · rename_i hs
    rw [hs] at h
    cases h
  · rename_i hs
    rw [hs] at h
    cases h

theorem halt_instances_length : s.halt.instances.length = s.instances.length :=
  dropHandles_instances_length s

theorem beginStop_changes : Changes loses strands s s.beginStop.2 := by
  cases ha : s.status.isActive with
  | true =>
    rw [beginStop_active ha]
    exact .single (.halt rfl rfl rfl)
  | false =>
    -- Nothing happens, and no change is a chain of changes.
    rw [beginStop_inactive ha]

theorem stopStep_changes (j : Nat) : Changes loses strands s ((s.stopStep j).getD s) := by
  unfold stopStep
  split
  · exact .refl
  · split
    · exact .single (.other rfl rfl rfl)
    · split
      · exact .single (.other rfl rfl rfl)
      · exact .refl
    · exact .single (.other rfl rfl rfl)
    · exact .refl

end Relay.Supervisor
