import Relay.Proofs.Supervision.Recovery
import Relay.Proofs.Supervision.Stopping

namespace Relay.Supervisor

open Supervision Relation

variable {s t u : Supervisor} {i j : Nat} {denied : Denials} {failure : Failure} {now : Nat}
  {ended : Option Nat} {a : Action} {name : String}

def timesStarted (s : Supervisor) (i : Nat) : Nat := (s.instances.map Instance.child).count i

def hasCompleted (s : Supervisor) (i : Nat) : Prop :=
  ∃ c, s.children[i]? = some c ∧ c.state = .completed

/-- A child is asked for by name, or with all others. -/
def Action.asks : Action → Nat → Prop
  | .start _, _ => True
  | .restartChild j _, i => j = i
  | .reportFailure j _ _ _, i => j = i
  | _, _ => False

/-- The policy of a supervisor restarts child `i` for a failure of child `j`. -/
def SharesFate (s : Supervisor) (j i : Nat) : Prop :=
  match s.strategy.policy with
  | .oneForOne => i = j
  | .oneForAll => i < s.children.length
  | .restForOne => ReflTransGen (fun on child =>
      child < s.children.length ∧ s.dependencies.dependsOn child on = true) j i

/-- An action with which another child fails, and that is answered by a restart of child `i`, too. -/
def reaches (s : Supervisor) (a : Action) (i : Nat) : Prop :=
  ∃ j failure now denied ended, j ≠ i ∧ s.FailureOf j failure now denied ended a ∧
    s.admitsAt now = true ∧ s.SharesFate j i

/-- It is not denied a thread, either. -/
def drawsIn (s : Supervisor) (a : Action) (i : Nat) : Prop :=
  ∃ j failure now denied ended, j ≠ i ∧ s.FailureOf j failure now denied ended a ∧
    s.admitsAt now = true ∧ s.SharesFate j i ∧ denied i = none

theorem mem_targets_iff (hs : Reachable s) (hj : j < s.children.length) :
    i ∈ s.targets j ↔ s.SharesFate j i := by
  have hrestarts := targets_restartsFor hs.dependencies_size hj
  unfold RestartsFor at hrestarts
  unfold SharesFate
  cases hpolicy : s.strategy.policy with
  | oneForOne =>
    rw [hpolicy] at hrestarts
    rw [hrestarts, List.mem_singleton]
  | oneForAll =>
    rw [hpolicy] at hrestarts
    rw [hrestarts, List.mem_range]
  | restForOne =>
    rw [hpolicy] at hrestarts
    exact hrestarts.2.2.1 i

section Starts

theorem timesStarted_congr (h : t.instances.map Instance.child = s.instances.map Instance.child) :
    t.timesStarted i = s.timesStarted i := by
  rw [timesStarted, h, timesStarted]

theorem dropHandle_map_child (s : Supervisor) (j : Nat) :
    (s.dropHandle j).instances.map Instance.child = s.instances.map Instance.child := by
  unfold dropHandle
  split
  · exact map_modify fun _ => rfl
  · rfl

theorem launch_timesStarted (s : Supervisor) (j : Nat) (c : Child) :
    (s.launch j c).timesStarted i = s.timesStarted i + if j = i then 1 else 0 := by
  rw [timesStarted, launch, List.map_append, dropHandle_map_child, List.count_append,
    List.map_singleton, List.count_singleton, timesStarted]
  by_cases hji : j = i <;> simp [hji]

theorem restartTarget_timesStarted (hj : j < s.children.length) :
    (restartTarget denied s j).timesStarted i =
      s.timesStarted i + if j = i ∧ denied i = none then 1 else 0 := by
  have hc := List.getElem?_eq_getElem hj
  cases hd : denied j with
  | none =>
    have hlaunched := s.launch_timesStarted (i := i) j s.children[j]
    rw [restartTarget_permitted hc hd]
    by_cases hji : j = i
    · subst hji
      rw [if_pos ⟨rfl, hd⟩]
      rw [if_pos rfl] at hlaunched
      exact hlaunched
    · rw [if_neg fun h => hji h.1]
      rw [if_neg hji] at hlaunched
      exact hlaunched
  | some e =>
    have hdenied : ¬ (j = i ∧ denied i = none) := by
      rintro ⟨rfl, hnone⟩
      rw [hd] at hnone
      cases hnone
    rw [if_neg hdenied]
    simp only [restartTarget, restart, spawnChild_denied hc hd]
    rfl

theorem restartTargets_timesStarted (indices : List Nat) (s : Supervisor)
    (hvalid : ∀ j ∈ indices, j < s.children.length) :
    (indices.foldl (restartTarget denied) s).timesStarted i =
      s.timesStarted i + if denied i = none then indices.count i else 0 := by
  induction indices generalizing s with
  | nil => simp
  | cons j indices ih =>
    obtain ⟨hj, hvalid⟩ := List.forall_mem_cons.1 hvalid
    have hlength : (restartTarget denied s j).children.length = s.children.length :=
      (restartTarget_confined s j).children_length
    have hrest := ih (restartTarget denied s j) fun j hj => hlength ▸ hvalid j hj
    rw [List.foldl_cons, hrest, restartTarget_timesStarted hj, List.count_cons]
    by_cases hd : denied i = none
    · by_cases hji : j = i
      · simp only [hji, hd, and_self, if_true, beq_self_eq_true]
        omega
      · simp [hji, hd]
    · simp [hd]

theorem handleFailure_timesStarted (hs : Reachable s) (hj : j < s.children.length) :
    (s.handleFailure j failure now denied).timesStarted i = s.timesStarted i +
      if s.admitsAt now = true ∧ i ∈ s.targets j ∧ denied i = none then 1 else 0 := by
  obtain ⟨-, hnodup, hvalid⟩ := targets_valid hs.dependencies_size hj
  have hrecorded : (s.accountFor j failure now).timesStarted i = s.timesStarted i := by
    apply timesStarted_congr
    rw [accountFor_instances, dropHandle_map_child]
  rw [handleFailure_eq]
  cases hadmits : s.admitsAt now with
  | true =>
    have hcounted : ∀ k ∈ s.targets j, k < (s.accountFor j failure now).children.length := by
      rw [accountFor_children, List.length_modify]
      exact hvalid
    rw [if_pos rfl, restartTargets_timesStarted _ _ hcounted, hrecorded, hnodup.count]
    by_cases hd : denied i = none <;> simp [hd]
  | false =>
    rw [if_neg Bool.false_ne_true, if_neg fun h => Bool.false_ne_true h.1]
    exact hrecorded

theorem map_child_retire (instances : List Instance) (ended : Option Nat) :
    (instances.mapIdx (Instance.retire ended)).map Instance.child = instances.map Instance.child := by
  apply List.ext_getElem?
  intro k
  rw [List.getElem?_map, List.getElem?_mapIdx, List.getElem?_map, Option.map_map]
  rfl

theorem FailureOf.timesStarted (hs : Reachable s) (h : s.FailureOf j failure now denied ended a) :
    (s.act a).timesStarted i = s.timesStarted i +
      if s.admitsAt now = true ∧ i ∈ s.targets j ∧ denied i = none then 1 else 0 := by
  have hhandled : (s.act a).timesStarted i =
      (s.handleFailure j failure now denied).timesStarted i := by
    rw [h.act_eq]
    exact timesStarted_congr (map_child_retire _ ended)
  rw [hhandled, handleFailure_timesStarted hs h.valid.2.1]

end Starts

/-- A child that has completed stays as it is. -/
def Spares (i : Nat) (s t : Supervisor) : Prop :=
  s.hasCompleted i → t.hasCompleted i ∧ t.timesStarted i = s.timesStarted i

namespace Spares

theorem refl (s : Supervisor) : Spares i s s := fun h => ⟨h, rfl⟩

theorem trans (hst : Spares i s t) (htu : Spares i t u) : Spares i s u := by
  intro hs
  obtain ⟨ht, hstarted⟩ := hst hs
  obtain ⟨hu, hstarted'⟩ := htu ht
  exact ⟨hu, hstarted'.trans hstarted⟩

theorem of_eq (hc : t.children = s.children) (hi : t.instances = s.instances) : Spares i s t := by
  intro hs
  refine ⟨?_, timesStarted_congr (by rw [hi])⟩
  rw [hasCompleted, hc]
  exact hs

theorem of_ne (hc : t.children[i]? = s.children[i]?)
    (hi : t.instances.map Instance.child = s.instances.map Instance.child) : Spares i s t := by
  intro hs
  refine ⟨?_, timesStarted_congr hi⟩
  rw [hasCompleted, hc]
  exact hs

theorem launch (hne : j ≠ i) (c : Child) : Spares i s (s.launch j c) := by
  intro hs
  constructor
  · rw [hasCompleted, Supervisor.launch, List.getElem?_modify_ne _ _ hne]
    exact hs
  · rw [launch_timesStarted, if_neg hne, Nat.add_zero]

theorem emitStarted (s : Supervisor) (j : Nat) : Spares i s (s.emitStarted j) := by
  rw [emitStarted_eq]
  exact .of_eq rfl rfl

theorem spawnChild (hne : j ≠ i) : Spares i s (s.spawnChild j denied).2 := by
  cases hc : s.children[j]? with
  | none =>
    simp only [Supervisor.spawnChild, hc]
    exact .refl s
  | some c =>
    cases hd : denied j with
    | none =>
      rw [spawnChild_permitted hc hd]
      exact .launch hne c
    | some e =>
      rw [spawnChild_denied hc hd]
      exact .of_ne (List.getElem?_modify_ne _ _ hne) rfl

theorem restart (hne : j ≠ i) : Spares i s (s.restart j denied).2 := by
  have hspawned : Spares i s (s.spawnChild j denied).2 := .spawnChild hne
  unfold Supervisor.restart
  split
  · rename_i e after heq
    rw [heq] at hspawned
    exact hspawned
  · rename_i after heq
    rw [heq] at hspawned
    exact hspawned.trans (.of_ne (List.getElem?_modify_ne _ _ hne) rfl)

theorem restartTarget (hne : j ≠ i) : Spares i s (restartTarget denied s j) := by
  have hrestarted : Spares i s (s.restart j denied).2 := .restart hne
  unfold Supervisor.restartTarget
  split
  · rename_i after heq
    rw [heq] at hrestarted
    exact hrestarted
  · rename_i e after heq
    rw [heq] at hrestarted
    exact hrestarted.trans (.of_ne (List.getElem?_modify_ne _ _ hne) rfl)

theorem restartTargets (indices : List Nat) (s : Supervisor) (hnot : i ∉ indices) :
    Spares i s (indices.foldl (Supervisor.restartTarget denied) s) := by
  induction indices generalizing s with
  | nil => exact .refl s
  | cons j indices ih =>
    have hne : j ≠ i := by
      rintro rfl
      exact hnot List.mem_cons_self
    have hrest : i ∉ indices := fun hi => hnot (List.mem_cons_of_mem j hi)
    exact (Spares.restartTarget hne).trans (ih _ hrest)

theorem accountFor (hne : j ≠ i) : Spares i s (s.accountFor j failure now) := by
  apply of_ne
  · rw [accountFor_children, List.getElem?_modify_ne _ _ hne]
  · rw [accountFor_instances, dropHandle_map_child]

theorem handleFailure (hne : j ≠ i) (hout : s.admitsAt now = true → i ∉ s.targets j) :
    Spares i s (s.handleFailure j failure now denied) := by
  have haccount : Spares i s (s.accountFor j failure now) := .accountFor hne
  rw [handleFailure_eq]
  split
  · rename_i hadmits
    exact haccount.trans (.restartTargets _ _ (hout hadmits))
  · exact haccount.trans (.of_eq rfl rfl)

theorem complete (hne : j ≠ i) : Spares i s (s.complete j) := by
  apply of_ne
  · rw [complete_children, List.getElem?_modify_ne _ _ hne]
  · exact dropHandle_map_child s j

theorem register (task : Task) (denied : Denials) : Spares i s (s.register task denied).2 := by
  intro hs
  have hlt : i < s.children.length := by
    obtain ⟨c, hc, -⟩ := hs
    exact (List.getElem?_eq_some_iff.1 hc).1
  have henrolled (name : Name) : Spares i s (s.enroll name task) :=
    .of_ne (List.getElem?_append_left hlt) rfl
  suffices hregistered : Spares i s (s.register task denied).2 from hregistered hs
  cases hname : s.id.scoped? task.name with
  | none =>
    simp only [Supervisor.register, hname]
    exact .refl s
  | some name =>
    cases hopen : s.status.isActive && !s.dynamic with
    | true =>
      simp only [Supervisor.register, hname, hopen, if_true]
      exact .refl s
    | false =>
      rw [register_eq hname hopen]
      split
      · have hspawned : Spares i (s.enroll name task)
            ((s.enroll name task).spawnChild s.children.length denied).2 :=
          .spawnChild (Nat.ne_of_gt hlt)
        split
        · rename_i after heq
          rw [heq] at hspawned
          exact (henrolled name).trans (hspawned.trans (.emitStarted after _))
        · rename_i e after heq
          rw [heq] at hspawned
          exact (henrolled name).trans hspawned
      · exact henrolled name

theorem beginStop (s : Supervisor) : Spares i s s.beginStop.2 := by
  cases ha : s.status.isActive with
  | false =>
    rw [beginStop_inactive ha]
    exact .refl s
  | true =>
    rw [beginStop_active ha]
    rintro ⟨c, hc, hcompleted⟩
    constructor
    · refine ⟨c.halted, ?_, ?_⟩
      · change (s.children.map Child.halted)[i]? = _
        rw [List.getElem?_map, hc, Option.map_some]
      · unfold Child.halted
        rw [if_neg (by rw [hcompleted]; nofun)]
        exact hcompleted
    · apply timesStarted_congr
      exact dropHandles_induction (P := fun t =>
        t.instances.map Instance.child = s.instances.map Instance.child)
        (fun t j ht => (dropHandle_map_child t j).trans ht) rfl

theorem stopStep (s : Supervisor) (j : Nat) : Spares i s ((s.stopStep j).getD s) := by
  cases hs : s.stopStep j with
  | none => exact .refl s
  | some t =>
    obtain ⟨stopper, -, hstopped⟩ := stopStep_cases hs
    cases hstopped with
    | take _ ht | close _ _ _ ht | report _ ht =>
      rw [ht]
      exact .of_eq rfl rfl

end Spares

theorem hasCompleted.ne_of_accepts (h : s.hasCompleted i) {inst : Instance}
    (haccepts : s.accepts inst = true) : inst.child ≠ i := by
  rintro rfl
  obtain ⟨c, hc, hcompleted⟩ := h
  obtain ⟨-, d, hd, -, hrunning⟩ := accepts_iff.1 haccepts
  rw [hc] at hd
  cases hd
  rw [hcompleted] at hrunning
  cases hrunning

theorem FailureOf.ne_of_hasCompleted (h : s.FailureOf j failure now denied ended a)
    (hcompleted : s.hasCompleted i) (hasks : ¬ a.asks i) : j ≠ i := by
  cases h with
  | report => exact hasks
  | exit _ hchild _ haccepts => exact hchild ▸ hcompleted.ne_of_accepts haccepts

theorem FailureOf.spares (hs : Reachable s) (h : s.FailureOf j failure now denied ended a)
    (hasks : ¬ a.asks i) (hspared : ¬ s.reaches a i) : Spares i s (s.act a) := by
  intro hcompleted
  have hne := h.ne_of_hasCompleted hcompleted hasks
  have hhandled : Spares i s (s.handleFailure j failure now denied) := by
    apply Spares.handleFailure hne
    intro hadmits htarget
    have hshares := (mem_targets_iff hs h.valid.2.1).1 htarget
    exact hspared ⟨j, failure, now, denied, ended, hne, h, hadmits, hshares⟩
  have hended : Spares i (s.handleFailure j failure now denied) (s.act a) := by
    rw [h.act_eq]
    exact .of_ne rfl (map_child_retire _ ended)
  exact hhandled.trans hended hcompleted

theorem exit_spares (hs : Reachable s) {k : Nat} {result : Except Failure Unit}
    (hspared : ¬ s.reaches (.exit k result now denied) i) :
    Spares i s (s.exit k result now denied) := by
  intro hcompleted
  cases hk : s.instances[k]? with
  | none =>
    have hsame : s.exit k result now denied = s := by simp only [exit, hk]
    rw [hsame]
    exact Spares.refl s hcompleted
  | some inst =>
    cases hlive : inst.live with
    | false =>
      have hsame : s.exit k result now denied = s := by simp [exit, hk, hlive]
      rw [hsame]
      exact Spares.refl s hcompleted
    | true =>
      cases haccepts : s.accepts inst with
      | false =>
        simp only [exit, hk, hlive, if_true, childExited_refused haccepts]
        exact Spares.of_ne rfl (map_modify fun _ => rfl) hcompleted
      | true =>
        cases result with
        | error failure =>
          have hfailure : s.FailureOf inst.child failure now denied (some k)
              (.exit k (.error failure) now denied) := .exit hk rfl hlive haccepts
          exact hfailure.spares hs (fun h => h) hspared hcompleted
        | ok =>
          have hne := hcompleted.ne_of_accepts haccepts
          have hended : Spares i (s.complete inst.child) (s.exit k (.ok ()) now denied) := by
            simp only [exit, hk, hlive, if_true, childExited, haccepts]
            exact .of_ne rfl (map_modify fun _ => rfl)
          exact (Spares.complete hne).trans hended hcompleted

/-- Nothing that happens to a supervisor concerns a child that has completed, unless it is asked for, or
another child fails that it shares its fate with. -/
theorem act_spares (hs : Reachable s) (hasks : ¬ a.asks i) (hspared : ¬ s.reaches a i) :
    Spares i s (s.act a) := by
  cases a with
  | register task denied => exact .register task denied
  | addDependency child on =>
    obtain ⟨dependencies, -, heq⟩ := addDependency_eq s child on
    rw [act, heq]
    exact .of_eq rfl rfl
  | start denied => exact (hasks trivial).elim
  | beginStop => exact .beginStop s
  | stopStep j => exact .stopStep s j
  | restartChild j denied =>
    simp only [act, restartChild]
    split
    · exact .refl s
    · exact .restart hasks
  | reportFailure j failure now denied =>
    cases hok : s.ensureChild j with
    | error e =>
      simp only [act, reportFailure, hok]
      exact .refl s
    | ok =>
      have hfailure : s.FailureOf j failure now denied none (.reportFailure j failure now denied) :=
        .report hok
      exact hfailure.spares hs hasks hspared
  | exit k result now denied => exact exit_spares hs hspared
  | progress k activity => exact .of_ne rfl (map_modify fun _ => rfl)
  | superviseChannel | strategy | settings | events | wait | waitLook => exact .of_eq rfl rfl

/-- While nobody asks for it, a child that has completed is started again exactly when another child
fails that it shares its fate with, and its thread can be created. -/
theorem act_timesStarted (hs : Reachable s) (hcompleted : s.hasCompleted i) (hasks : ¬ a.asks i) :
    s.timesStarted i < (s.act a).timesStarted i ↔ s.drawsIn a i := by
  constructor
  · intro hstarted
    by_cases hreaches : s.reaches a i
    · obtain ⟨j, failure, now, denied, ended, hne, hfailure, hadmits, hshares⟩ := hreaches
      refine ⟨j, failure, now, denied, ended, hne, hfailure, hadmits, hshares, ?_⟩
      by_contra hdenied
      rw [hfailure.timesStarted hs, if_neg fun h => hdenied h.2.2] at hstarted
      exact Nat.lt_irrefl _ hstarted
    · have hsame := (act_spares hs hasks hreaches hcompleted).2
      rw [hsame] at hstarted
      exact (Nat.lt_irrefl _ hstarted).elim
  · rintro ⟨j, failure, now, denied, ended, -, hfailure, hadmits, hshares, hd⟩
    have htarget := (mem_targets_iff hs hfailure.valid.2.1).2 hshares
    rw [hfailure.timesStarted hs, if_pos ⟨hadmits, htarget, hd⟩]
    exact Nat.lt_succ_self _

/-- Between its completion and the next time it is started, a child that has completed is asked for, or
reached by the failure of another child. -/
theorem exists_restart_of_completed (hs : Reachable s) {since before : List Action}
    (hcompleted : (s.after before).hasCompleted i)
    (hstarted : (s.after before).timesStarted i < (s.after (since ++ before)).timesStarted i) :
    ∃ a rest, a :: rest <:+ since ∧ (s.after (rest ++ before)).hasCompleted i ∧
      (a.asks i ∨ (s.after (rest ++ before)).reaches a i) := by
  let P (t : Supervisor) : Prop :=
    t.hasCompleted i ∧ t.timesStarted i = (s.after before).timesStarted i
  have hfirst : P (s.after before) := ⟨hcompleted, rfl⟩
  have hlast : ¬ P (s.after (since ++ before)) := by
    rintro ⟨-, hsame⟩
    exact absurd hstarted (Nat.not_lt_of_le hsame.le)
  obtain ⟨rest, a, later, rfl, ⟨hstill, hsame⟩, hturn⟩ := exists_turn hfirst hlast
  refine ⟨a, rest, List.suffix_append later (a :: rest), hstill, ?_⟩
  by_contra hneither
  obtain ⟨hasks, hspared⟩ := not_or.1 hneither
  obtain ⟨hkept, hcount⟩ := act_spares (hs.after _) hasks hspared hstill
  exact hturn ⟨hkept, hcount.trans hsame⟩

theorem drawsIn.not_asks (h : s.drawsIn a i) : ¬ a.asks i := by
  obtain ⟨j, failure, now, denied, ended, hne, hfailure, -⟩ := h
  cases hfailure with
  | report => exact hne
  | exit => exact fun h => h

/-- A child that has completed runs again only when it is asked for, along a history, exactly when no
other child failed that it shares its fate with, while it had completed and its thread could be created.
Whatever the history, nothing else makes it run again. -/
theorem completed_runs_when_asked_iff (hs : create name = .ok s) (history : List Action) (i : Nat) :
    ((∀ a earlier, a :: earlier <:+ history → (s.after earlier).hasCompleted i →
        (s.after earlier).timesStarted i < (s.after (a :: earlier)).timesStarted i → a.asks i) ↔
      ∀ a earlier, a :: earlier <:+ history → (s.after earlier).hasCompleted i →
        ¬ (s.after earlier).drawsIn a i) ∧
    ∀ since before, (s.after before).hasCompleted i →
      (s.after before).timesStarted i < (s.after (since ++ before)).timesStarted i →
      ∃ a rest, a :: rest <:+ since ∧ (s.after (rest ++ before)).hasCompleted i ∧
        (a.asks i ∨ (s.after (rest ++ before)).reaches a i) := by
  have hreachable (earlier : List Action) : Reachable (s.after earlier) :=
    (Reachable.create hs).after earlier
  refine ⟨⟨?_, ?_⟩, fun since before => exists_restart_of_completed (.create hs)⟩
  · intro hall a earlier hsuffix hcompleted hdrawn
    have hstarted := (act_timesStarted (hreachable earlier) hcompleted hdrawn.not_asks).2 hdrawn
    exact hdrawn.not_asks (hall a earlier hsuffix hcompleted hstarted)
  · intro hnone a earlier hsuffix hcompleted hstarted
    by_contra hasks
    have hdrawn := (act_timesStarted (hreachable earlier) hcompleted hasks).1 hstarted
    exact hnone a earlier hsuffix hcompleted hdrawn

/-- Under the standard policy the failure of one child is nothing to another. -/
theorem completed_runs_when_asked_one_for_one : ∃ s, create "sup" = .ok s ∧
    ∀ a earlier, a :: earlier <:+ [.reportFailure 0 (.ofMessage "boom") 0 noDenials,
      .exit 1 (.ok ()) 0 noDenials, .start noDenials, .register ⟨"b", none⟩ noDenials,
      .register ⟨"a", none⟩ noDenials] → (s.after earlier).hasCompleted 1 →
      (s.after earlier).timesStarted 1 < (s.after (a :: earlier)).timesStarted 1 → a.asks 1 := by
  have hcreated : create "sup" = .ok _ := rfl
  refine ⟨_, hcreated, (completed_runs_when_asked_iff hcreated _ 1).1.2 ?_⟩
  rintro a earlier hsuffix - ⟨j, failure, now, denied, ended, hne, -, -, hshares, -⟩
  simp only [List.suffix_cons_iff, List.cons.injEq, List.suffix_nil, reduceCtorEq, or_false] at hsuffix
  obtain ⟨rfl, rfl⟩ | ⟨rfl, rfl⟩ | ⟨rfl, rfl⟩ | ⟨rfl, rfl⟩ | ⟨rfl, rfl⟩ := hsuffix <;>
    exact hne (Eq.symm hshares)

/-- A child that has completed is started again for the failure of another, under a policy that restarts
all. -/
theorem completed_restarted_with_others : ∃ s, create "sup" = .ok s ∧
    let t := s.after [.exit 1 (.ok ()) 0 noDenials, .start noDenials,
      .strategy (RestartStrategy.standard.withPolicy .oneForAll), .register ⟨"b", none⟩ noDenials,
      .register ⟨"a", none⟩ noDenials]
    t.hasCompleted 1 ∧ t.timesStarted 1 = 1 ∧
      (t.act (.reportFailure 0 (.ofMessage "boom") 0 noDenials)).timesStarted 1 = 2 ∧
      ¬ (Action.reportFailure 0 (.ofMessage "boom") 0 noDenials).asks 1 :=
  ⟨_, rfl, ⟨_, rfl, rfl⟩, rfl, rfl, nofun⟩

end Relay.Supervisor
