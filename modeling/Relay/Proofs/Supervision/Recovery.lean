import Relay.Proofs.Supervision.Cascade
import Relay.Proofs.Supervision.Confinement
import Relay.Proofs.Supervision.Records

namespace Relay.Channel

variable {α : Type}

/-- A channel to which values were sent in order, none of which is waited for. -/
def offer (c : Channel α) (values : List α) : Channel α :=
  values.foldl (fun c value => (c.trySend value).2) c

theorem trySend_of_room {c : Channel α} (hopen : c.closed = false)
    (hroom : c.buffer.length < c.capacity) (value : α) : (c.trySend value).2 = c.push value := by
  have hfull : c.lacksRoom .none = false := by
    simp only [lacksRoom, isFull, length, beq_eq_false_iff_ne]
    omega
  simp [trySend, attemptSend, hopen, hfull]

theorem offer_of_room {c : Channel α} (hopen : c.closed = false) (values : List α)
    (hroom : c.buffer.length + values.length ≤ c.capacity) :
    c.offer values = { c with buffer := c.buffer ++ values } := by
  induction values generalizing c with
  | nil => simp [offer]
  | cons value values ih =>
    rw [List.length_cons] at hroom
    have hpushed : (c.push value).buffer.length + values.length ≤ c.capacity := by
      rw [push, List.length_append, List.length_singleton]
      omega
    have hrest : (c.push value).offer values = _ := ih hopen hpushed
    rw [offer, List.foldl_cons, trySend_of_room hopen (by omega)]
    exact hrest.trans (by simp [push])

end Relay.Channel

namespace Relay.Supervision.Instance

/-- An instance, after those of some children were signalled. -/
def dismiss (indices : List Nat) (inst : Instance) : Instance :=
  { inst with signalled := inst.signalled || decide (inst.child ∈ indices) }

/-- The instance with number `k`, after the thread of the one with the number `ended` ended. -/
def retire (ended : Option Nat) (k : Nat) (inst : Instance) : Instance :=
  { inst with live := inst.live && !decide (ended = some k) }

@[simp] theorem dismiss_nil (inst : Instance) : inst.dismiss [] = inst := by
  simp [dismiss]

theorem dismiss_dismiss (first second : List Nat) (inst : Instance) :
    (inst.dismiss first).dismiss second = inst.dismiss (first ++ second) := by
  simp only [dismiss, List.mem_append, Bool.decide_or, Bool.or_assoc]
  rfl

theorem mapIdx_retire_none (instances : List Instance) :
    instances.mapIdx (retire none) = instances := by
  apply List.ext_getElem?
  intro k
  cases hk : instances[k]? <;> simp [retire, hk]

end Relay.Supervision.Instance

namespace Relay.Supervisor

open Supervision Relation

variable {s t : Supervisor} {i : Nat} {denied : Denials}

theorem dropHandle_instances (hlinked : Linked s.children s.instances) (i : Nat) :
    (s.dropHandle i).instances = s.instances.map (·.dismiss [i]) := by
  apply List.ext_getElem?
  intro k
  rw [dropHandle_getElem?_instances, List.getElem?_map]
  cases hk : s.instances[k]? with
  | none => rfl
  | some inst =>
    obtain ⟨c, hc, -, hunsignalled⟩ := hlinked.known hk
    -- An instance that was not signalled is the one whose handle its child holds.
    cases hs : inst.signalled with
    | true => simp [Instance.dismiss, hs]
    | false =>
      have hheld : s.children[i]?.bind (·.handle) = some k ↔ inst.child = i := by
        constructor
        · intro h
          obtain ⟨d, hd, hh⟩ := Option.bind_eq_some_iff.1 h
          exact hlinked.held_once hc (hunsignalled hs) hd hh
        · rintro rfl
          simpa [hc] using hunsignalled hs
      have hsame : (s.children[i]?.bind (·.handle) == some k) = decide (inst.child = i) :=
        Bool.eq_iff_iff.2 (by simpa using hheld)
      simp [Instance.dismiss, hs, hsame]

def successor? (s : Supervisor) (j : Nat) : Option Instance :=
  s.children[j]?.map fun c => ⟨j, c.generation + 1, false, true, c.task.firstActivity⟩

def restartReport? (s : Supervisor) (j : Nat) : Option Event :=
  s.children[j]?.map fun c => .restarted j c.name.text (c.generation + 1)

theorem restartTarget_permitted {c : Child} (hc : s.children[i]? = some c) (hd : denied i = none) :
    restartTarget denied s i = { s with
      children := s.children.modify i fun c => (c.launched s.instances.length).counted
      instances :=
        (s.dropHandle i).instances ++ [⟨i, c.generation + 1, false, true, c.task.firstActivity⟩]
      tracked := (Spawn.reap s.hasExited s.tracked).2 ++ [s.instances.length]
      events := s.events.map fun channel =>
        (channel.trySend (.restarted i c.name.text (c.generation + 1))).2
      restarts := s.restarts + 1 } := by
  have hrecord : ((s.launch i c).modifyChild i Child.counted).children[i]? =
      some (c.launched s.instances.length).counted := by
    simp [launch, modifyChild, hc]
  have hchildren : ((s.launch i c).modifyChild i Child.counted).children =
      s.children.modify i fun c => (c.launched s.instances.length).counted :=
    List.modify_modify_eq _ _ _ _
  simp only [restartTarget, restart, spawnChild_permitted hc hd]
  rw [← hchildren]
  change emit { (s.launch i c).modifyChild i Child.counted with
    restarts := ((s.launch i c).modifyChild i Child.counted).restarts + 1 }
    (.restarted i ((((s.launch i c).modifyChild i Child.counted).children[i]?.map (·.name.text)).getD "")
      ((((s.launch i c).modifyChild i Child.counted).children[i]?.map (·.generation)).getD 0)) = _
  rw [hrecord]
  rfl

/-- `t` is `s` after some children were restarted in order. -/
structure Restarted (s : Supervisor) (indices : List Nat) (t : Supervisor) : Prop where
  children : ∀ j, t.children[j]? = s.children[j]?.map fun c =>
    if j ∈ indices then (c.launched (s.instances.length + indices.idxOf j)).counted else c
  instances : t.instances =
    s.instances.map (·.dismiss indices) ++ indices.filterMap s.successor?
  events : t.events = s.events.map (·.offer (indices.filterMap s.restartReport?))
  status : t.status = s.status
  failures : t.failures = s.failures
  restarts : t.restarts = s.restarts + indices.length

theorem Restarted.nil (s : Supervisor) : Restarted s [] s where
  children j := by simp
  instances := by simp
  events := by simp [Channel.offer]
  status := rfl
  failures := rfl
  restarts := rfl

theorem Restarted.cons {indices : List Nat} {c : Child} (hlinked : Linked s.children s.instances)
    (hc : s.children[i]? = some c) (hd : denied i = none) (hi : i ∉ indices)
    (h : Restarted (restartTarget denied s i) indices t) : Restarted s (i :: indices) t := by
  have hfirst := restartTarget_permitted hc hd
  have hother {j : Nat} (hj : j ∈ indices) :
      (restartTarget denied s i).children[j]? = s.children[j]? := by
    rw [restartTarget_children, List.getElem?_modify_ne _ _ (by rintro rfl; exact hi hj)]
  have hinstances : (restartTarget denied s i).instances = s.instances.map (·.dismiss [i]) ++
      [⟨i, c.generation + 1, false, true, c.task.firstActivity⟩] := by
    rw [hfirst, ← dropHandle_instances hlinked]
  constructor
  · intro j
    rw [h.children, restartTarget_children, List.getElem?_modify, hinstances, List.length_append,
      List.length_map]
    cases s.children[j]? with
    | none => rfl
    | some d =>
      by_cases hj : i = j
      · subst hj
        simp [hi, hd]
      · simp [hj, Ne.symm hj, List.idxOf_cons_ne indices hj, Nat.add_assoc, Nat.add_comm 1]
  · have hsuccessors : indices.filterMap (restartTarget denied s i).successor? =
        indices.filterMap s.successor? :=
      List.filterMap_congr fun j hj => by rw [successor?, successor?, hother hj]
    have hsuccessor : s.successor? i =
        some ⟨i, c.generation + 1, false, true, c.task.firstActivity⟩ := by simp [successor?, hc]
    rw [h.instances, hinstances, hsuccessors, List.filterMap_cons_some hsuccessor]
    have hnew : Instance.dismiss indices ⟨i, c.generation + 1, false, true, c.task.firstActivity⟩ =
        ⟨i, c.generation + 1, false, true, c.task.firstActivity⟩ := by simp [Instance.dismiss, hi]
    have hold : (s.instances.map (·.dismiss [i])).map (·.dismiss indices) =
        s.instances.map (·.dismiss (i :: indices)) := by
      rw [List.map_map]
      exact List.map_congr_left fun inst _ => inst.dismiss_dismiss [i] indices
    rw [List.map_append, hold, List.map_singleton, hnew, List.append_assoc, List.singleton_append]
  · have hreports : indices.filterMap (restartTarget denied s i).restartReport? =
        indices.filterMap s.restartReport? :=
      List.filterMap_congr fun j hj => by rw [restartReport?, restartReport?, hother hj]
    have hreport : s.restartReport? i = some (.restarted i c.name.text (c.generation + 1)) := by
      simp [restartReport?, hc]
    rw [h.events, hreports, List.filterMap_cons_some hreport, hfirst, Option.map_map]
    rfl
  · rw [h.status, hfirst]
  · rw [h.failures, hfirst]
  · rw [h.restarts, hfirst, List.length_cons]
    exact Nat.add_right_comm _ _ _

theorem restartTargets_permitted {indices : List Nat} (s : Supervisor) (hnodup : indices.Nodup)
    (hvalid : ∀ j ∈ indices, j < s.children.length) (hd : ∀ j, denied j = none) (hs : Sound s)
    (ha : s.status.isActive = true) :
    Restarted s indices (indices.foldl (restartTarget denied) s) := by
  induction indices generalizing s with
  | nil => exact .nil s
  | cons i indices ih =>
    obtain ⟨hi, hnodup⟩ := List.nodup_cons.1 hnodup
    have hc := List.getElem?_eq_getElem (hvalid i List.mem_cons_self)
    have hchanges : Changes (fun _ => True) (fun _ => True) s (restartTarget denied s i) :=
      restartTarget_changes ha fun _ _ _ _ => trivial
    refine .cons hs.linked hc (hd i) hi (ih _ hnodup ?_ (hs.changes hchanges) (restartTarget_status ha))
    intro j hj
    rw [(restartTarget_confined s i).children_length]
    exact hvalid j (List.mem_cons_of_mem i hj)

def failureReport (s : Supervisor) (i : Nat) (failure : Failure) : Event :=
  .failed i (s.childName i) failure.rendered

theorem accountFor_events (s : Supervisor) (i : Nat) (failure : Failure) (now : Nat) :
    (s.accountFor i failure now).events =
      s.events.map (·.offer [s.failureReport i failure]) := by
  have hdropped := (s.modifyChild i Child.faulty).dropHandle_eq i
  have hname : ((s.modifyChild i Child.faulty).dropHandle i).childName i = s.childName i := by
    rw [childName, dropHandle_children]
    cases hc : s.children[i]? <;> simp [childName, modifyChild, hc, Child.faulty, Child.released]
  change ((s.modifyChild i Child.faulty).dropHandle i).events.map (fun channel =>
    (channel.trySend (.failed i (((s.modifyChild i Child.faulty).dropHandle i).childName i)
      failure.rendered)).2) = _
  rw [hname, hdropped]
  rfl

theorem accountFor_failures (failure : Failure) (now : Nat) :
    (s.accountFor i failure now).failures = s.failures + 1 := by
  rw [accountFor, recordFailure_eq]

theorem accountFor_restarts (failure : Failure) (now : Nat) :
    (s.accountFor i failure now).restarts = s.restarts := by
  rw [accountFor, recordFailure_eq]

theorem accountFor_getElem?_children (s : Supervisor) (i j : Nat) (failure : Failure) (now : Nat) :
    (s.accountFor i failure now).children[j]? =
      s.children[j]?.map fun c => if i = j then c.faulty.released else c := by
  rw [accountFor_children, List.getElem?_modify]
  rfl

/-- What does not depend on whether a child runs is the same after a failure was accounted for. -/
theorem accountFor_map_children {α : Type} {g : Child → α} (s : Supervisor) (i : Nat)
    (failure : Failure) (now j : Nat) (hg : ∀ c, g c.faulty.released = g c) :
    (s.accountFor i failure now).children[j]?.map g = s.children[j]?.map g := by
  rw [accountFor_getElem?_children, Option.map_map]
  congr 1
  funext c
  by_cases hj : i = j <;> simp [hj, hg]

/-- Which children a failure restarts, in order, by the policy of the supervisor. -/
def RestartsFor (s : Supervisor) (i : Nat) (indices : List Nat) : Prop :=
  match s.strategy.policy with
  | .oneForOne => indices = [i]
  | .oneForAll => indices = List.range s.children.length
  | .restForOne =>
    (∃ rest, indices = i :: rest) ∧ indices.Nodup ∧
    (∀ j, j ∈ indices ↔ ReflTransGen (fun on child =>
      child < s.children.length ∧ s.dependencies.dependsOn child on = true) i j) ∧
    Dependencies.Preorder s.dependencies.dependents [] [i] indices

theorem targets_restartsFor (hsize : s.dependencies.size = s.children.length)
    (hi : i < s.children.length) : s.RestartsFor i (s.targets i) := by
  unfold RestartsFor targets
  cases s.strategy.policy with
  | oneForOne => rfl
  | oneForAll => rfl
  | restForOne =>
    have hnode : i < s.dependencies.size := hsize ▸ hi
    refine ⟨Dependencies.cascade_eq_cons hnode, Dependencies.nodup_cascade hnode, fun j => ?_,
      Dependencies.cascade_preorder hnode⟩
    rw [← hsize]
    exact Dependencies.mem_cascade_iff hnode

theorem targets_valid (hsize : s.dependencies.size = s.children.length)
    (hi : i < s.children.length) : i ∈ s.targets i ∧ (s.targets i).Nodup ∧
    ∀ j ∈ s.targets i, j < s.children.length := by
  unfold targets
  cases s.strategy.policy with
  | oneForOne => simp [hi]
  | oneForAll => simp [hi, List.nodup_range]
  | restForOne =>
    have hnode : i < s.dependencies.size := hsize ▸ hi
    obtain ⟨rest, hrest⟩ := Dependencies.cascade_eq_cons hnode
    refine ⟨by simp [hrest], Dependencies.nodup_cascade hnode, fun j hj => ?_⟩
    exact hsize ▸ Dependencies.lt_size_of_mem_cascade hnode hj

/-- A failure of a child that its supervisor answers: it is reported, or it ends the instance with the
number `ended`, to which the supervisor listens. -/
inductive FailureOf (s : Supervisor) (i : Nat) (failure : Failure) (now : Nat) (denied : Denials) :
    (ended : Option Nat) → Action → Prop
  | report (h : s.ensureChild i = .ok ()) :
    FailureOf s i failure now denied none (.reportFailure i failure now denied)
  | exit {k : Nat} {inst : Instance} (hk : s.instances[k]? = some inst) (hchild : inst.child = i)
    (hlive : inst.live = true) (h : s.accepts inst = true) :
    FailureOf s i failure now denied (some k) (.exit k (.error failure) now denied)

namespace FailureOf

variable {failure : Failure} {now : Nat} {ended : Option Nat} {a : Action}

theorem valid (h : FailureOf s i failure now denied ended a) :
    s.status.isActive = true ∧ i < s.children.length ∧ ∀ k, ended = some k → k < s.instances.length := by
  cases h with
  | report h =>
    obtain ⟨hactive, hi⟩ := ensureChild_ok h
    exact ⟨hactive, hi, nofun⟩
  | @exit k inst hk hchild _ h =>
    obtain ⟨hactive, c, hc, -, -⟩ := accepts_iff.1 h
    rw [hchild] at hc
    refine ⟨hactive, (List.getElem?_eq_some_iff.1 hc).1, ?_⟩
    rintro _ ⟨⟩
    exact (List.getElem?_eq_some_iff.1 hk).1

theorem act_eq (h : FailureOf s i failure now denied ended a) : s.act a =
    { s.handleFailure i failure now denied with
      instances := (s.handleFailure i failure now denied).instances.mapIdx
        (Instance.retire ended) } := by
  cases h with
  | report h =>
    rw [Instance.mapIdx_retire_none]
    simp [act, reportFailure, h]
  | @exit k inst hk hchild hlive h =>
    subst hchild
    simp only [act, Supervisor.exit, hk, hlive, if_true, childExited, h]
    congr 1
    apply List.ext_getElem?
    intro j
    rw [List.getElem?_modify, List.getElem?_mapIdx]
    cases (s.handleFailure inst.child failure now denied).instances[j]? with
    | none => rfl
    | some other =>
      by_cases hj : k = j <;> simp [Instance.retire, hj]

end FailureOf

/-- What is left of `s` after a failure that the budget admits, for which some children are restarted. -/
structure Recovered (s : Supervisor) (i : Nat) (failure : Failure) (now : Nat) (ended : Option Nat)
    (indices : List Nat) (t : Supervisor) : Prop where
  children : ∀ j, t.children[j]? = s.children[j]?.map fun c =>
    if j ∈ indices then { c with
      state := .running, failed := false, generation := c.generation + 1, restarts := c.restarts + 1
      handle := some (s.instances.length + indices.idxOf j) }
    else c
  instances : t.instances =
    (s.instances.map (·.dismiss indices)).mapIdx (Instance.retire ended) ++
      indices.filterMap s.successor?
  events : t.events = s.events.map
    (·.offer (s.failureReport i failure :: indices.filterMap s.restartReport?))
  status : t.status = s.status
  failures : t.failures = s.failures + 1
  restarts : t.restarts = s.restarts + indices.length
  confined : Confined { s with budget := s.charged now } t

/-- What is left of `s` after a failure that exhausts the budget. -/
structure Exhausted (s : Supervisor) (i : Nat) (failure : Failure) (now : Nat) (ended : Option Nat)
    (t : Supervisor) : Prop where
  children : t.children = s.children.modify i fun c =>
    { c with state := .failed, failed := true, handle := none }
  instances : t.instances = (s.instances.map (·.dismiss [i])).mapIdx (Instance.retire ended)
  events : t.events = s.events.map
    (·.offer [s.failureReport i failure, .limitExceeded i (s.childName i)])
  status : t.status = .degraded
  failures : t.failures = s.failures + 1
  restarts : t.restarts = s.restarts
  confined : Confined { s with budget := s.charged now } t

variable {failure : Failure} {now : Nat} {ended : Option Nat}

theorem handleFailure_recovered (hs : Reachable s) (ha : s.status.isActive = true)
    (hi : i < s.children.length) (hd : ∀ j, denied j = none) (hadmits : s.admitsAt now = true) :
    Recovered s i failure now none (s.targets i) (s.handleFailure i failure now denied) := by
  obtain ⟨hmem, hnodup, hvalid⟩ := targets_valid hs.dependencies_size hi
  -- What the accounting has done to the child that failed is undone or repeated by its restart.
  have hchange : Change (fun _ => True) (fun _ => True) s (s.accountFor i failure now) :=
    accountFor_change failure now
  have hrestarted := restartTargets_permitted (s.accountFor i failure now) hnodup
    (by simpa using hvalid) hd (hs.sound.change hchange) (by simpa using ha)
  have heq : s.handleFailure i failure now denied =
      (s.targets i).foldl (restartTarget denied) (s.accountFor i failure now) := by
    rw [handleFailure_eq, if_pos hadmits]
  rw [heq]
  constructor
  · intro j
    rw [hrestarted.children, accountFor_getElem?_children, Option.map_map, accountFor_instances,
      dropHandle_instances_length]
    congr 1
    funext c
    by_cases hj : i = j
    · subst hj
      simp [hmem, Child.counted, Child.launched, Child.raised, Child.faulty, Child.released]
    · simp [hj, Child.counted, Child.launched, Child.raised]
  · have hsuccessors : (s.accountFor i failure now).successor? = s.successor? :=
      funext fun j => accountFor_map_children s i failure now j fun _ => rfl
    have hdismissed (inst : Instance) : (inst.dismiss [i]).dismiss (s.targets i) =
        inst.dismiss (s.targets i) := by
      simp only [Instance.dismiss, List.mem_singleton]
      by_cases hinst : inst.child = i <;> simp [hinst, hmem]
    rw [hrestarted.instances, hsuccessors, accountFor_instances,
      dropHandle_instances hs.sound.linked, List.map_map, Instance.mapIdx_retire_none]
    congr 1
    exact List.map_congr_left fun inst _ => hdismissed inst
  · have hreports : (s.accountFor i failure now).restartReport? = s.restartReport? :=
      funext fun j => accountFor_map_children s i failure now j fun _ => rfl
    rw [hrestarted.events, accountFor_events, Option.map_map, hreports]
    congr 1
  · rw [hrestarted.status]
    simp
  · rw [hrestarted.failures]
    exact accountFor_failures failure now
  · rw [hrestarted.restarts, accountFor_restarts]
  · rw [← heq]
    exact handleFailure_confined s i failure now denied

theorem handleFailure_exhausted (hlinked : Linked s.children s.instances)
    (hadmits : s.admitsAt now = false) :
    Exhausted s i failure now none (s.handleFailure i failure now denied) := by
  have heq : s.handleFailure i failure now denied =
      ({ s.accountFor i failure now with status := .degraded }.emit
        (.limitExceeded i ((s.recordFailure i failure).childName i))).notifyAll := by
    rw [handleFailure_eq, if_neg (by simp [hadmits])]
  have hname : (s.recordFailure i failure).childName i = s.childName i := by
    rw [recordFailure_eq, childName]
    cases hc : s.children[i]? <;> simp [childName, hc, Child.faulty, Child.released]
  constructor
  · rw [heq]
    exact accountFor_children failure now
  · rw [heq]
    change (s.accountFor i failure now).instances = _
    rw [accountFor_instances, dropHandle_instances hlinked, Instance.mapIdx_retire_none]
  · rw [heq, hname]
    change (s.accountFor i failure now).events.map
      (fun channel => (channel.trySend (.limitExceeded i (s.childName i))).2) = _
    rw [accountFor_events, Option.map_map]
    rfl
  · rw [heq]
    rfl
  · rw [heq]
    exact accountFor_failures failure now
  · rw [heq]
    exact accountFor_restarts failure now
  · exact handleFailure_confined s i failure now denied

theorem Recovered.retire {indices : List Nat} (h : Recovered s i failure now none indices t)
    (hended : ∀ k, ended = some k → k < s.instances.length) :
    Recovered s i failure now ended indices
      { t with instances := t.instances.mapIdx (Instance.retire ended) } where
  children := h.children
  instances := by
    -- The instances that were started since are not the one that ended.
    have hnew (k : Nat) (inst : Instance) :
        inst.retire ended (k + s.instances.length) = inst := by
      have hk : ended ≠ some (k + s.instances.length) := fun hk => by
        have hlt := hended _ hk
        omega
      simp [Instance.retire, hk]
    change t.instances.mapIdx _ = _
    rw [h.instances, Instance.mapIdx_retire_none, List.mapIdx_append]
    congr 1
    apply List.ext_getElem?
    intro k
    cases hk : (indices.filterMap s.successor?)[k]? <;> simp [hk, hnew]
  events := h.events
  status := h.status
  failures := h.failures
  restarts := h.restarts
  confined := h.confined.trans ⟨rfl, rfl⟩

theorem Exhausted.retire (h : Exhausted s i failure now none t) : Exhausted s i failure now ended
    { t with instances := t.instances.mapIdx (Instance.retire ended) } where
  children := h.children
  instances := by
    change t.instances.mapIdx _ = _
    rw [h.instances, Instance.mapIdx_retire_none]
  events := h.events
  status := h.status
  failures := h.failures
  restarts := h.restarts
  confined := h.confined.trans ⟨rfl, rfl⟩

theorem Recovered.events_of_room {indices : List Nat} {channel : Channel Event}
    (h : Recovered s i failure now ended indices t) (hchannel : s.events = some channel)
    (hopen : channel.closed = false)
    (hroom : channel.buffer.length + 1 + indices.length ≤ channel.capacity) :
    t.events = some { channel with
      buffer := channel.buffer ++ s.failureReport i failure :: indices.filterMap s.restartReport? } := by
  have hreports : (indices.filterMap s.restartReport?).length ≤ indices.length :=
    List.length_filterMap_le _ _
  rw [h.events, hchannel, Option.map_some, Channel.offer_of_room hopen]
  rw [List.length_cons]
  omega

/-- The effect of a failure when every thread can be created. Each target is restarted once, in order,
if the budget admits it, and the child that failed is all that changes if it does not. -/
theorem failure_effect {a : Action} (hs : Reachable s)
    (h : s.FailureOf i failure now noDenials ended a) :
    s.RestartsFor i (s.targets i) ∧
    (s.admitsAt now = true → Recovered s i failure now ended (s.targets i) (s.act a) ∧
      ∀ channel, s.events = some channel → channel.closed = false →
        channel.buffer.length + 1 + (s.targets i).length ≤ channel.capacity →
        (s.act a).events = some { channel with
          buffer := channel.buffer ++
            s.failureReport i failure :: (s.targets i).filterMap s.restartReport? }) ∧
    (s.admitsAt now = false → Exhausted s i failure now ended (s.act a)) := by
  obtain ⟨hactive, hi, hended⟩ := h.valid
  refine ⟨targets_restartsFor hs.dependencies_size hi, fun hadmits => ?_, fun hadmits => ?_⟩
  · have hrecovered : Recovered s i failure now ended (s.targets i) (s.act a) := by
      rw [h.act_eq]
      exact (handleFailure_recovered hs hactive hi (fun _ => rfl) hadmits).retire hended
    exact ⟨hrecovered, fun channel => hrecovered.events_of_room⟩
  · rw [h.act_eq]
    exact (handleFailure_exhausted hs.sound.linked hadmits).retire

/-- The second child depends on the first and is restarted with it, which fills the event channel; then
the budget is exhausted. -/
theorem failure_effect_cascade : ∃ s, create "sup" = .ok s ∧
    let boom := Failure.ofMessage "boom"
    let t := s.after [.events (some ⟨3, .plain, [], false⟩), .start noDenials, .addDependency 1 0,
      .register ⟨"b", none⟩ noDenials, .register ⟨"a", none⟩ noDenials,
      .strategy ((RestartStrategy.standard.withPolicy .restForOne).withBudget 1 ⟨5⟩)]
    let u := t.act (.exit 0 (.error boom) 7 noDenials)
    Recovered t 0 boom 7 (some 0) [0, 1] u ∧
    u.events = some ⟨3, .plain, [.failed 0 "sup.a" boom.rendered, .restarted 0 "sup.a" 2,
      .restarted 1 "sup.b" 2], false⟩ ∧
    Exhausted u 1 boom 9 none (u.act (.reportFailure 1 boom 9 noDenials)) := by
  have hcreated : create "sup" = .ok _ := rfl
  refine ⟨_, hcreated, ?_⟩
  intro boom t u
  have ht : Reachable t := (Reachable.create hcreated).after _
  have hexit : t.FailureOf 0 boom 7 noDenials (some 0) (.exit 0 (.error boom) 7 noDenials) :=
    .exit rfl rfl rfl rfl
  have hreport : u.FailureOf 1 boom 9 noDenials none (.reportFailure 1 boom 9 noDenials) :=
    .report rfl
  have htargets : t.targets 0 = [0, 1] := rfl
  obtain ⟨hrecovered, hevents⟩ := (failure_effect ht hexit).2.1 rfl
  refine ⟨htargets ▸ hrecovered, (hevents _ rfl rfl (by rw [htargets]; decide)).trans ?_,
    (failure_effect (ht.act _) hreport).2.2 rfl⟩
  rw [htargets]
  rfl

end Relay.Supervisor
