import Mathlib.Logic.Relation
import Relay.Proofs.Supervision.Handles
import Relay.Supervision.Handling

namespace Relay.Supervision

namespace Child

def counted (c : Child) : Child := { c with restarts := c.restarts + 1 }

def faulty (c : Child) : Child := { c with failed := true, state := .failed }

def completed (c : Child) : Child := { c.released with state := .completed }

def rested (c : Child) : Child := { c with state := .idle, failed := false }

def halted (c : Child) : Child :=
  if c.state = .running then { c.released with state := .stopped } else c.released

theorem halted_state (c : Child) : c.halted.state ≠ .running := by
  unfold halted
  split
  · nofun
  · assumption

theorem halted_handle (c : Child) : c.halted.handle = none := by
  unfold halted
  split <;> rfl

def withdrawn (c : Child) : Child := { c.released with state := .idle }

end Child

end Relay.Supervision

namespace Relay.Supervisor

open Supervision Relation

/-- One change. It may raise the generation of a running child only if `loses` permits it, and may
record a child as failed while its handle is held only if `strands` does. -/
inductive Change (loses strands : Nat → Prop) (s t : Supervisor) : Prop
  | other (hs : t.status = s.status) (hc : t.children = s.children)
      (hi : t.instances = s.instances)
  | degrade (ha : s.status.isActive = true) (hs : t.status = .degraded)
      (hc : t.children = s.children) (hi : t.instances = s.instances)
  | add (name : Name) (task : Task) (hs : t.status = s.status)
      (hc : t.children = s.children ++ [.fresh name task]) (hi : t.instances = s.instances)
  | deny (i : Nat) (hl : ∀ c, s.children[i]? = some c → c.state = .running → loses i)
      (hs : t.status = s.status) (hc : t.children = s.children.modify i Child.raised)
      (hi : t.instances = s.instances)
  | launch (i : Nat) (c : Child) (ha : s.status.isActive = true) (hi : s.children[i]? = some c)
      (hs : t.status = s.status) (hc : t.children = (s.launch i c).children)
      (hi : t.instances = (s.launch i c).instances)
  | count (i : Nat) (hs : t.status = s.status) (hc : t.children = s.children.modify i Child.counted)
      (hi : t.instances = s.instances)
  | abandon (i : Nat) (hl : ∀ c, s.children[i]? = some c → c.handle ≠ none → strands i)
      (ha : s.status.isActive = true) (hs : t.status = .degraded)
      (hc : t.children = s.children.modify i fun c => c.raised.faulty)
      (hi : t.instances = s.instances)
  | fail (i : Nat) (hs : t.status = s.status)
      (hc : t.children = s.children.modify i fun c => c.faulty.released)
      (hi : t.instances = (s.dropHandle i).instances)
  | complete (i : Nat) (hs : t.status = s.status)
      (hc : t.children = s.children.modify i Child.completed)
      (hi : t.instances = (s.dropHandle i).instances)
  | finish (k : Nat)
      (hk : ∀ inst, s.instances[k]? = some inst → inst.signalled = true ∨
        ∀ c, s.children[inst.child]? = some c → c.state = .running → c.generation ≠ inst.generation)
      (hs : t.status = s.status) (hc : t.children = s.children)
      (hi : t.instances = s.instances.modify k fun inst => { inst with live := false })
  | proceed (k : Nat) (activity : Activity) (hs : t.status = s.status)
      (hc : t.children = s.children)
      (hi : t.instances = s.instances.modify k fun inst => { inst with activity })
  | prepare (ha : s.status.isActive = false) (hs : t.status = .running)
      (hc : t.children = s.children.map Child.rested) (hi : t.instances = s.instances)
  | withdraw (hs : t.status = .stopped) (hc : t.children = s.children.map Child.withdrawn)
      (hi : t.instances = s.dropHandles.instances)
  | halt (hs : t.status = .stopped) (hc : t.children = s.children.map Child.halted)
      (hi : t.instances = s.dropHandles.instances)

abbrev Changes (loses strands : Nat → Prop) : Supervisor → Supervisor → Prop :=
  ReflTransGen (Change loses strands)

variable {loses strands : Nat → Prop} {s t : Supervisor} {i : Nat} {denied : Denials}

theorem emit_change (event : Event) : Change loses strands s (s.emit event) :=
  .other rfl rfl rfl

theorem notifyAll_change : Change loses strands s s.notifyAll :=
  .other rfl rfl rfl

theorem emitStarted_changes : Changes loses strands s (s.emitStarted i) := by
  unfold emitStarted
  split
  · exact .single (emit_change _)
  · exact .refl

theorem spawnChild_changes (ha : s.status.isActive = true)
    (hl : ∀ c, s.children[i]? = some c → c.state = .running → loses i) :
    Changes loses strands s (s.spawnChild i denied).2 := by
  cases hc : s.children[i]? with
  | none =>
    simp only [spawnChild, hc]
    exact .refl
  | some c =>
    cases hd : denied i with
    | none =>
      rw [spawnChild_permitted hc hd]
      exact .single (.launch i c ha hc rfl rfl rfl)
    | some e =>
      rw [spawnChild_denied hc hd]
      exact .single (.deny i hl rfl rfl rfl)

theorem restart_changes (ha : s.status.isActive = true)
    (hl : ∀ c, s.children[i]? = some c → c.state = .running → (denied i).isSome → loses i) :
    Changes loses strands s (s.restart i denied).2 := by
  cases hc : s.children[i]? with
  | none =>
    simp only [restart, spawnChild, hc]
    exact .refl
  | some c =>
    cases hd : denied i with
    | none =>
      simp only [restart, spawnChild_permitted hc hd]
      have hlaunch : Change loses strands s (s.launch i c) := .launch i c ha hc rfl rfl rfl
      have hcount : Change loses strands (s.launch i c) ((s.launch i c).modifyChild i Child.counted) :=
        .count i rfl rfl rfl
      exact .tail (.tail (.single hlaunch) hcount) (.other rfl rfl rfl)
    | some e =>
      simp only [restart, spawnChild_denied hc hd]
      refine .single (.deny i ?_ rfl rfl rfl)
      intro d hd' hrunning
      exact hl d hd' hrunning (by rw [hd]; rfl)

theorem restartTarget_status (ha : s.status.isActive = true) :
    (restartTarget denied s i).status.isActive = true := by
  cases hc : s.children[i]? with
  | none =>
    simp only [restartTarget, restart, spawnChild, hc]
    rfl
  | some c =>
    cases hd : denied i with
    | none =>
      simp only [restartTarget, restart, spawnChild_permitted hc hd]
      exact ha
    | some e =>
      simp only [restartTarget, restart, spawnChild_denied hc hd]
      rfl

theorem restartTarget_children : (restartTarget denied s i).children =
    s.children.modify i fun c =>
      if (denied i).isSome then c.raised.faulty else (c.launched s.instances.length).counted := by
  cases hc : s.children[i]? with
  | none =>
    have hi := List.getElem?_eq_none_iff.1 hc
    simp only [restartTarget, restart, spawnChild, hc]
    exact (List.modify_eq_self hi).trans (List.modify_eq_self hi).symm
  | some c =>
    cases hd : denied i with
    | none =>
      simp only [restartTarget, restart, spawnChild_permitted hc hd]
      exact List.modify_modify_eq _ _ _ _
    | some e =>
      simp only [restartTarget, restart, spawnChild_denied hc hd]
      exact List.modify_modify_eq _ _ _ _

theorem restartTarget_changes (ha : s.status.isActive = true)
    (hl : ∀ c, s.children[i]? = some c → c.handle ≠ none → (denied i).isSome → strands i) :
    Changes loses strands s (restartTarget denied s i) := by
  cases hc : s.children[i]? with
  | none =>
    have hi := List.getElem?_eq_none_iff.1 hc
    simp only [restartTarget, restart, spawnChild, hc]
    exact .single (.degrade ha rfl (List.modify_eq_self hi) rfl)
  | some c =>
    cases hd : denied i with
    | none =>
      have hrestart : Changes loses strands s (s.restart i denied).2 :=
        restart_changes ha (by simp [hd])
      simp only [restart, spawnChild_permitted hc hd] at hrestart
      simp only [restartTarget, restart, spawnChild_permitted hc hd]
      exact hrestart
    | some e =>
      simp only [restartTarget, restart, spawnChild_denied hc hd]
      refine .single (.abandon i ?_ ha rfl (List.modify_modify_eq _ _ _ _) rfl)
      intro d hd' hheld
      exact hl d hd' hheld (by rw [hd]; rfl)

/-- A target whose restart is denied keeps its handle until its turn comes, and beyond it. -/
theorem restartTargets_changes (indices : List Nat) (s : Supervisor)
    (ha : s.status.isActive = true)
    (hl : ∀ i ∈ indices, ∀ c, s.children[i]? = some c → c.handle ≠ none → (denied i).isSome →
      strands i) : Changes loses strands s (indices.foldl (restartTarget denied) s) := by
  induction indices generalizing s with
  | nil => exact .refl
  | cons j indices ih =>
    have hfirst : Changes loses strands s (restartTarget denied s j) :=
      restartTarget_changes ha (hl j (by simp))
    apply hfirst.trans
    apply ih _ (restartTarget_status ha)
    intro i hi c' hc' hheld hd
    rw [restartTarget_children] at hc'
    obtain ⟨c, hc, ⟨rfl, rfl⟩ | ⟨-, rfl⟩⟩ := of_getElem?_modify hc'
    · rw [if_pos hd] at hheld
      exact hl j (List.mem_cons_self) c hc hheld hd
    · exact hl i (List.mem_cons_of_mem j hi) _ hc hheld hd

theorem recordFailure_eq (failure : Failure) : s.recordFailure i failure =
    { s with
      children := s.children.modify i fun c => c.faulty.released
      instances := (s.dropHandle i).instances
      failures := s.failures + 1
      events := (s.recordFailure i failure).events } := by
  have hchildren : ((s.modifyChild i Child.faulty).dropHandle i).children =
      s.children.modify i fun c => c.faulty.released := by
    rw [dropHandle_children]
    exact List.modify_modify_eq _ _ _ _
  have hinstances : ((s.modifyChild i Child.faulty).dropHandle i).instances =
      (s.dropHandle i).instances := by
    apply dropHandle_instances_congr
    · rfl
    · cases hc : s.children[i]? <;> simp [modifyChild, hc, Child.faulty]
  have hdropped := (s.modifyChild i Child.faulty).dropHandle_eq i
  rw [hchildren, hinstances] at hdropped
  have hfailed : (s.modifyChild i fun c => { c with failed := true, state := .failed }) =
      s.modifyChild i Child.faulty := rfl
  simp only [recordFailure, hfailed, hdropped]
  rfl

def admitsAt (s : Supervisor) (now : Nat) : Bool := (s.charged now).admits s.strategy

def accountFor (s : Supervisor) (i : Nat) (failure : Failure) (now : Nat) : Supervisor :=
  { s.recordFailure i failure with budget := s.charged now }

section AccountFor

variable (failure : Failure) (now : Nat)

@[simp] theorem accountFor_status : (s.accountFor i failure now).status = s.status := by
  rw [accountFor, recordFailure_eq]

@[simp] theorem accountFor_children : (s.accountFor i failure now).children =
    s.children.modify i fun c => c.faulty.released := by
  rw [accountFor, recordFailure_eq]

@[simp] theorem accountFor_instances :
    (s.accountFor i failure now).instances = (s.dropHandle i).instances := by
  rw [accountFor, recordFailure_eq]

theorem handleFailure_eq : s.handleFailure i failure now denied =
    if s.admitsAt now then
      (s.targets i).foldl (restartTarget denied) (s.accountFor i failure now)
    else ({ s.accountFor i failure now with status := .degraded }.emit
      (.limitExceeded i ((s.recordFailure i failure).childName i))).notifyAll := by
  have hcharged : (s.recordFailure i failure).charged now = s.charged now := by
    rw [recordFailure_eq]
    rfl
  have htargets : (s.accountFor i failure now).targets i = s.targets i := by
    rw [accountFor, recordFailure_eq]
    simp [targets]
  have hadmits : (s.charged now).admits (s.recordFailure i failure).strategy = s.admitsAt now := by
    rw [recordFailure_eq]
    rfl
  simp only [handleFailure, hcharged, hadmits]
  rw [← htargets]
  rfl

end AccountFor

/-- The children left behind by a failure of child `i`: others that hold a handle, and are to be
restarted, and cannot. -/
def leavesBehind (s : Supervisor) (i now : Nat) (denied : Denials) (j : Nat) : Prop :=
  s.admitsAt now = true ∧ j ≠ i ∧ j ∈ s.targets i ∧ (denied j).isSome ∧
    ∃ c, s.children[j]? = some c ∧ c.handle ≠ none

theorem accountFor_change (failure : Failure) (now : Nat) :
    Change loses strands s (s.accountFor i failure now) :=
  .fail i (by simp) (by simp) (by simp)

theorem handleFailure_restarts (ha : s.status.isActive = true) {failure : Failure} {now : Nat}
    (hl : ∀ j, s.leavesBehind i now denied j → strands j) :
    Changes loses strands (s.accountFor i failure now) (s.handleFailure i failure now denied) := by
  have hactive : (s.accountFor i failure now).status.isActive = true := by simpa using ha
  rw [handleFailure_eq]
  split
  · rename_i hadmits
    apply restartTargets_changes _ _ hactive
    intro j hj c' hc' hheld hd
    rw [accountFor_children] at hc'
    obtain ⟨c, hc, ⟨-, rfl⟩ | ⟨hij, rfl⟩⟩ := of_getElem?_modify hc'
    · exact (hheld rfl).elim
    · exact hl j ⟨hadmits, Ne.symm hij, hj, hd, _, hc, hheld⟩
  · generalize s.accountFor i failure now = counted at hactive
    exact .single (.degrade hactive rfl rfl rfl)

theorem handleFailure_changes (ha : s.status.isActive = true) {failure : Failure} {now : Nat}
    (hl : ∀ j, s.leavesBehind i now denied j → strands j) :
    Changes loses strands s (s.handleFailure i failure now denied) :=
  .head (accountFor_change failure now) (handleFailure_restarts ha hl)

theorem accepts_iff {inst : Instance} : s.accepts inst = true ↔ s.status.isActive = true ∧
    ∃ c, s.children[inst.child]? = some c ∧ c.generation = inst.generation ∧ c.state = .running := by
  cases hc : s.children[inst.child]? <;> simp [accepts, hc]

theorem childExited_refused {inst : Instance} (h : s.accepts inst = false)
    (result : Except Failure Unit) (now : Nat) (denied : Denials) :
    s.childExited inst result now denied = s := by
  simp [childExited, h]

theorem complete_status (i : Nat) : (s.complete i).status = s.status := by
  rw [complete, dropHandle_eq]
  rfl

theorem complete_children (i : Nat) :
    (s.complete i).children = s.children.modify i Child.completed := by
  rw [complete, modifyChild, dropHandle_children, List.modify_modify_eq]
  rfl

theorem childExited_changes {inst : Instance} {result : Except Failure Unit} {now : Nat}
    (hl : ∀ j failure, result = .error failure → s.accepts inst = true →
      s.leavesBehind inst.child now denied j → strands j) :
    Changes loses strands s (s.childExited inst result now denied) := by
  unfold childExited
  split
  · rename_i haccepts
    have ha := (accepts_iff.1 haccepts).1
    cases result with
    | ok => exact .single (.complete inst.child (complete_status _) (complete_children _) rfl)
    | error failure => exact handleFailure_changes ha fun j => hl j failure rfl haccepts
  · exact .refl

end Relay.Supervisor
