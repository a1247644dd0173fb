import Relay.Proofs.Supervision.Incarnations

namespace Relay.Supervision

/-- What the marks and counters of a record say under a status of its supervisor. -/
structure Child.Marked (status : Status) (c : Child) : Prop where
  failed_iff : c.failed = true ↔ c.state = .failed
  stopped : c.state = .stopped → status = .stopped
  created : status = .created → c.state = .idle ∧ c.generation = 0
  restarts_le : c.restarts ≤ c.generation

/-- What a record says under a status of its supervisor. -/
structure Child.Consistent (status : Status) (c : Child) : Prop extends c.Marked status where
  running : c.state = .running → c.handle ≠ none
  inactive : status = .created ∨ status = .stopped → c.state ≠ .running ∧ c.handle = none

namespace Child.Marked

variable {c : Child} {status status' : Status} {k : Nat}

theorem fresh (status : Status) (name : Name) (task : Task) :
    (Child.fresh name task).Marked status where
  failed_iff := ⟨nofun, nofun⟩
  stopped := nofun
  created _ := ⟨rfl, rfl⟩
  restarts_le := Nat.le_refl 0

theorem of_active (h : c.Marked status) (ha : status.isActive = true)
    (ha' : status'.isActive = true) : c.Marked status' where
  failed_iff := h.failed_iff
  stopped hs := by
    rw [h.stopped hs] at ha
    cases ha
  created hs := (Status.ne_created ha' hs).elim
  restarts_le := h.restarts_le

theorem released (h : c.Marked status) : c.released.Marked status :=
  ⟨h.failed_iff, h.stopped, h.created, h.restarts_le⟩

theorem raised (h : c.Marked status) (ha : status.isActive = true) : c.raised.Marked status where
  failed_iff := h.failed_iff
  stopped := h.stopped
  created hs := (Status.ne_created ha hs).elim
  restarts_le := Nat.le_succ_of_le h.restarts_le

theorem launched (h : c.Marked status) (ha : status.isActive = true) :
    (c.launched k).Marked status where
  failed_iff := ⟨nofun, nofun⟩
  stopped := nofun
  created hs := (Status.ne_created ha hs).elim
  restarts_le := Nat.le_succ_of_le h.restarts_le

theorem restarted (h : c.Marked status) (ha : status.isActive = true) :
    (c.launched k).counted.Marked status where
  failed_iff := ⟨nofun, nofun⟩
  stopped := nofun
  created hs := (Status.ne_created ha hs).elim
  restarts_le := Nat.succ_le_succ h.restarts_le

theorem faulty (h : c.Marked status) (ha : status.isActive = true) : c.faulty.Marked status where
  failed_iff := ⟨fun _ => rfl, fun _ => rfl⟩
  stopped := nofun
  created hs := (Status.ne_created ha hs).elim
  restarts_le := h.restarts_le

theorem completed (h : c.Marked status) (ha : status.isActive = true) (hr : c.state = .running) :
    c.completed.Marked status where
  failed_iff := by
    constructor
    · intro hf
      have hfailed := hr.symm.trans (h.failed_iff.1 hf)
      cases hfailed
    · nofun
  stopped := nofun
  created hs := (Status.ne_created ha hs).elim
  restarts_le := h.restarts_le

theorem rested (h : c.Marked status) : c.rested.Marked .running where
  failed_iff := ⟨nofun, nofun⟩
  stopped := nofun
  created := nofun
  restarts_le := h.restarts_le

theorem halted (h : c.Marked status) : c.halted.Marked .stopped := by
  unfold Child.halted
  split
  · rename_i hr
    have hunfailed : c.failed ≠ true := by
      intro hf
      have hfailed := hr.symm.trans (h.failed_iff.1 hf)
      cases hfailed
    exact ⟨⟨fun hf => (hunfailed hf).elim, nofun⟩, fun _ => rfl, nofun, h.restarts_le⟩
  · exact ⟨h.failed_iff, fun _ => rfl, nofun, h.restarts_le⟩

/-- Giving up a start makes all children idle, and would not take back that one had failed. -/
theorem withdrawn (h : c.Marked status) (hf : c.failed = false) : c.withdrawn.Marked .stopped where
  failed_iff := by
    constructor
    · intro hfailed
      exact (Bool.false_ne_true (hf.symm.trans hfailed)).elim
    · nofun
  stopped := nofun
  created := nofun
  restarts_le := h.restarts_le

end Child.Marked

end Relay.Supervision

namespace Relay.Supervisor

open Supervision

variable {s t : Supervisor} {i : Nat} {denied : Denials} {P : Child → Prop}

section Records

theorem spawnChild_records (h : ∀ c ∈ s.children, P c) (hdenied : ∀ c, P c → P c.raised)
    (hlaunched : ∀ c k, P c → P (c.launched k)) : ∀ c ∈ (s.spawnChild i denied).2.children, P c := by
  cases hc : s.children[i]? with
  | none =>
    simp only [spawnChild, hc]
    exact h
  | some c =>
    cases hd : denied i with
    | none =>
      rw [spawnChild_permitted hc hd]
      exact forall_mem_modify i h (fun _ hd => hd) fun d => hlaunched d _
    | some e =>
      rw [spawnChild_denied hc hd]
      exact forall_mem_modify i h (fun _ hd => hd) hdenied

theorem restart_records (h : ∀ c ∈ s.children, P c) (hdenied : ∀ c, P c → P c.raised)
    (hrestarted : ∀ c k, P c → P (c.launched k).counted) :
    ∀ c ∈ (s.restart i denied).2.children, P c := by
  cases hc : s.children[i]? with
  | none =>
    simp only [restart, spawnChild, hc]
    exact h
  | some c =>
    cases hd : denied i with
    | none =>
      have hchildren : (s.restart i denied).2.children =
          s.children.modify i fun c => (c.launched s.instances.length).counted := by
        simp only [restart, spawnChild_permitted hc hd]
        exact List.modify_modify_eq _ _ _ _
      rw [hchildren]
      exact forall_mem_modify i h (fun _ hd => hd) fun d => hrestarted d _
    | some e =>
      simp only [restart, spawnChild_denied hc hd]
      exact forall_mem_modify i h (fun _ hd => hd) hdenied

theorem startChildren_records (n i : Nat) (s : Supervisor) (h : ∀ c ∈ s.children, P c)
    (hdenied : ∀ c, P c → P c.raised) (hlaunched : ∀ c k, P c → P (c.launched k)) :
    ∀ c ∈ (startChildren denied n i s).2.children, P c := by
  refine startChildren_induction (P := fun t => ∀ c ∈ t.children, P c) n i s h
    (fun t i ht => spawnChild_records ht hdenied hlaunched) fun t i ht => ?_
  rw [emitStarted_eq]
  exact ht

end Records

def Marked (s : Supervisor) : Prop := ∀ c ∈ s.children, c.Marked s.status

namespace Marked

theorem of_eq (h : Marked s) (hs : t.status = s.status) (hc : t.children = s.children) :
    Marked t := by
  rw [Marked, hs, hc]
  exact h

theorem register (h : Marked s) (task : Task) (denied : Denials) :
    Marked (s.register task denied).2 := by
  cases hname : s.id.scoped? task.name with
  | none =>
    simp only [Supervisor.register, hname]
    exact h
  | some name =>
    cases hopen : s.status.isActive && !s.dynamic with
    | true =>
      simp only [Supervisor.register, hname, hopen, if_true]
      exact h
    | false =>
      have henrolled : ∀ c ∈ (s.enroll name task).children, c.Marked s.status := by
        intro c hc
        rcases List.mem_append.1 hc with hc | hc
        · exact h c hc
        · rw [List.mem_singleton.1 hc]
          exact .fresh s.status name task
      have hstatus := register_status s task denied
      rw [Marked, hstatus, register_eq hname hopen]
      split
      · rename_i ha
        have hspawned : ∀ c ∈ ((s.enroll name task).spawnChild s.children.length denied).2.children,
            c.Marked s.status :=
          spawnChild_records henrolled (fun _ hc => hc.raised ha) fun _ _ hc => hc.launched ha
        split
        · rename_i heq
          rw [heq] at hspawned
          rw [emitStarted_eq]
          exact hspawned
        · rename_i heq
          rw [heq] at hspawned
          exact hspawned
      · exact henrolled

theorem start (h : Marked s) (denied : Denials) : Marked (s.start denied).2 := by
  cases hactive : s.status.isActive with
  | true =>
    simp only [Supervisor.start, hactive, if_true]
    exact h
  | false =>
    -- No child is marked as failed before the start, and starting children fails none of them.
    have hready : ∀ c ∈ s.readied.children, c.Marked .running ∧ c.failed = false :=
      List.forall_mem_map.2 fun c hc => ⟨(h c hc).rested, rfl⟩
    have hstarted : ∀ c ∈ (startChildren denied s.children.length 0 s.readied).2.children,
        c.Marked .running ∧ c.failed = false := by
      apply startChildren_records _ _ _ hready
      · intro c hc
        exact ⟨hc.1.raised rfl, hc.2⟩
      · intro c k hc
        exact ⟨hc.1.launched rfl, rfl⟩
    have hstatus := startChildren_status denied s.children.length 0 s.readied
    rw [start_eq hactive]
    split
    · exact h
    · split
      · rename_i heq
        rw [heq] at hstarted hstatus
        intro c hc
        have hrunning : Supervisor.status (notifyAll _) = .running := hstatus
        rw [hrunning]
        exact (hstarted c hc).1
      · rename_i after heq
        rw [heq] at hstarted
        change ∀ c ∈ (after.dropHandles.children.map fun c => { c with state := .idle }),
          c.Marked .stopped
        rw [dropHandles_children, List.map_map]
        exact List.forall_mem_map.2 fun c hc => (hstarted c hc).1.withdrawn (hstarted c hc).2

theorem beginStop (h : Marked s) : Marked s.beginStop.2 := by
  cases hactive : s.status.isActive with
  | true =>
    rw [beginStop_active hactive]
    exact List.forall_mem_map.2 fun c hc => (h c hc).halted
  | false =>
    rw [beginStop_inactive hactive]
    exact h

theorem restartTarget (h : Marked s) (ha : s.status.isActive = true) (i : Nat) :
    Marked (restartTarget denied s i) := by
  have hafter : (Supervisor.restartTarget denied s i).status.isActive = true := restartTarget_status ha
  rw [Marked, restartTarget_children]
  refine forall_mem_modify i h (fun c hc => hc.of_active ha hafter) fun c hc => ?_
  split
  · exact ((hc.raised ha).faulty ha).of_active ha hafter
  · exact (hc.restarted ha).of_active ha hafter

theorem restartTargets (h : Marked s) (ha : s.status.isActive = true) (indices : List Nat) :
    Marked (indices.foldl (Supervisor.restartTarget denied) s) := by
  induction indices generalizing s with
  | nil => exact h
  | cons i indices ih => exact ih (h.restartTarget ha i) (restartTarget_status ha)

theorem accountFor (h : Marked s) (ha : s.status.isActive = true) (failure : Failure) (now : Nat) :
    Marked (s.accountFor i failure now) := by
  rw [Marked, accountFor_children, accountFor_status]
  exact forall_mem_modify i h (fun _ hc => hc) fun c hc => (hc.faulty ha).released

theorem handleFailure (h : Marked s) (ha : s.status.isActive = true) (failure : Failure)
    (now : Nat) : Marked (s.handleFailure i failure now denied) := by
  have haccount := h.accountFor (i := i) ha failure now
  have hactive : (s.accountFor i failure now).status.isActive = true := by
    rw [accountFor_status]
    exact ha
  rw [handleFailure_eq]
  split
  · exact haccount.restartTargets hactive (s.targets i)
  · intro c hc
    exact (haccount c hc).of_active hactive rfl

theorem childExited (h : Marked s) (inst : Instance) (result : Except Failure Unit) (now : Nat)
    (denied : Denials) : Marked (s.childExited inst result now denied) := by
  unfold Supervisor.childExited
  split
  · rename_i haccepts
    obtain ⟨ha, c, hc, -, hr⟩ := accepts_iff.1 haccepts
    cases result with
    | ok =>
      rw [Marked, complete_status, complete_children]
      refine forall_mem_modify_at inst.child h (fun _ hd => hd) fun d hd hmarked => ?_
      rw [hc] at hd
      cases hd
      exact hmarked.completed ha hr
    | error failure => exact h.handleFailure ha failure now
  · exact h

theorem exit (h : Marked s) (k : Nat) (result : Except Failure Unit) (now : Nat)
    (denied : Denials) : Marked (s.exit k result now denied) := by
  unfold Supervisor.exit
  split
  · rename_i inst _
    split
    · exact (h.childExited inst result now denied).of_eq rfl rfl
    · exact h
  · exact h

theorem act (h : Marked s) (a : Action) : Marked (s.act a) := by
  cases a with
  | register task denied => exact h.register task denied
  | addDependency child on =>
    obtain ⟨dependencies, -, heq⟩ := addDependency_eq s child on
    rw [Supervisor.act, heq]
    exact h
  | start denied => exact h.start denied
  | beginStop => exact h.beginStop
  | stopStep j =>
    rw [Supervisor.act]
    cases hs : s.stopStep j with
    | none => exact h
    | some t =>
      obtain ⟨stopper, -, hstopped⟩ := stopStep_cases hs
      cases hstopped with
      | take _ ht | close _ _ _ ht | report _ ht =>
        rw [ht]
        exact h
  | restartChild i denied =>
    simp only [Supervisor.act, restartChild]
    split
    · exact h
    · rename_i hok
      have ha := (ensureChild_ok hok).1
      rw [Marked, restart_status]
      exact restart_records h (fun _ hc => hc.raised ha) fun _ _ hc => hc.restarted ha
  | reportFailure i failure now denied =>
    simp only [Supervisor.act, reportFailure]
    split
    · exact h
    · rename_i hok
      exact h.handleFailure (ensureChild_ok hok).1 failure now
  | exit k result now denied => exact h.exit k result now denied
  | superviseChannel | strategy | settings | events | progress | wait | waitLook => exact h

end Marked

theorem Reachable.marked (hs : Reachable s) : Marked s := by
  induction hs with
  | create hc =>
    rw [Marked, create_children hc]
    exact nofun
  | act _ a ih => exact ih.act a

/-- Whatever was done to a supervisor, and whichever threads could not be created for it, each of its
records is consistent with its status. -/
theorem records_consistent (hs : Reachable s) : ∀ c ∈ s.children, c.Consistent s.status := by
  intro c hc
  have htidy := hs.sound.tidy c hc
  refine ⟨hs.marked c hc, htidy.holds, fun hstatus => ?_⟩
  have hinactive : s.status.isActive = false := by
    rcases hstatus with hstatus | hstatus <;> rw [hstatus] <;> rfl
  have hfree : c.handle = none := by
    by_contra hheld
    exact Bool.false_ne_true (hinactive.symm.trans (htidy.active hheld))
  exact ⟨fun hr => htidy.holds hr hfree, hfree⟩

/-- A restart for a failure is denied, which leaves a failed child beside a running one. -/
theorem records_consistent_denied_restart : ∃ s, create "sup" = .ok s ∧
    let t := s.after [.exit 0 (.error (.ofMessage "boom")) 7 fun _ => some .notPermitted,
      .start noDenials, .register ⟨"b", none⟩ noDenials, .register ⟨"a", none⟩ noDenials]
    t.status = .degraded ∧ t.children.map (·.state) = [.failed, .running] ∧
    ∀ c ∈ t.children, c.Consistent .degraded := by
  have hcreated : create "sup" = .ok _ := rfl
  refine ⟨_, hcreated, ?_⟩
  intro t
  exact ⟨rfl, rfl, records_consistent ((Reachable.create hcreated).after _)⟩

end Relay.Supervisor
