import Relay.Proofs.Supervision.Recovery

namespace Relay.Supervisor

open Supervision

variable {s t u : Supervisor} {task : Task} {name : Name} {i n : Nat} {denied : Denials}

/-- The names and tasks of the children, by number. -/
def roster (s : Supervisor) : List (Name × Task) := s.children.map Child.post

@[simp] theorem length_roster (s : Supervisor) : s.roster.length = s.children.length :=
  List.length_map _

/-- `t` is the supervisor `s` with the same children, and perhaps further ones behind them. -/
structure Enlarged (s t : Supervisor) : Prop where
  id : t.id = s.id
  roster : s.roster <+: t.roster

namespace Enlarged

theorem refl (s : Supervisor) : Enlarged s s := ⟨rfl, List.prefix_refl _⟩

theorem trans (hst : Enlarged s t) (htu : Enlarged t u) : Enlarged s u :=
  ⟨htu.id.trans hst.id, hst.roster.trans htu.roster⟩

theorem enroll (s : Supervisor) (name : Name) (task : Task) : Enlarged s (s.enroll name task) where
  id := rfl
  roster := by
    have hroster : (s.enroll name task).roster = s.roster ++ [(name, task)] := List.map_append
    rw [hroster]
    exact List.prefix_append _ _

end Enlarged

theorem Confined.enlarged (h : Confined t u) (hid : t.id = s.id) (hc : t.children = s.children) :
    Enlarged s u where
  id := by
    rw [h.eq]
    exact hid
  roster := by
    have hroster : u.roster = s.roster := h.roster.trans (congrArg (List.map Child.post) hc)
    rw [hroster]

theorem act_enlarged (s : Supervisor) (a : Action) : Enlarged s (s.act a) := by
  cases a with
  | register task denied =>
    rcases register_confined s task denied with hconfined | ⟨name, hconfined⟩
    · exact hconfined.enlarged rfl rfl
    · exact (Enlarged.enroll s name task).trans (hconfined.enlarged rfl rfl)
  | addDependency child on =>
    obtain ⟨dependencies, -, heq⟩ := addDependency_eq s child on
    rw [act, heq]
    exact ⟨rfl, List.prefix_refl _⟩
  | start denied =>
    by_cases hstarts : s.starts
    · exact (start_moves hstarts).confined.enlarged rfl rfl
    · obtain ⟨init, heq⟩ := start_refused hstarts denied
      rw [act, heq]
      exact ⟨rfl, List.prefix_refl _⟩
  | beginStop =>
    obtain ⟨closers, stoppers, hconfined⟩ := beginStop_confined s
    exact hconfined.enlarged rfl rfl
  | stopStep j =>
    obtain ⟨channels, stoppers, hconfined⟩ := stopStep_confined s j
    exact hconfined.enlarged rfl rfl
  | restartChild i denied =>
    simp only [act, restartChild]
    split
    · exact .refl s
    · exact restart_moves.confined.enlarged rfl rfl
  | reportFailure i failure now denied =>
    simp only [act, reportFailure]
    split
    · exact .refl s
    · exact (handleFailure_confined s i failure now denied).enlarged rfl rfl
  | exit k result now denied => exact (exit_confined s k result now denied).enlarged rfl rfl
  | superviseChannel | strategy | settings | events | progress | wait | waitLook =>
    exact ⟨rfl, List.prefix_refl _⟩

theorem after_enlarged (s : Supervisor) (history : List Action) : Enlarged s (s.after history) := by
  induction history with
  | nil => exact .refl s
  | cons a earlier ih => exact ih.trans (act_enlarged _ a)

section Register

theorem register_unnamed (h : s.id.scoped? task.name = none) :
    s.register task denied = (.error (.invalidName task.name), s) := by
  simp only [register, h]

theorem register_closed (hname : s.id.scoped? task.name = some name)
    (hclosed : (s.status.isActive && !s.dynamic) = true) :
    s.register task denied = (.error .registrationClosed, s) := by
  simp only [register, hname, hclosed, if_true]

theorem register_enrolls (denied : Denials) (hname : s.id.scoped? task.name = some name)
    (hopen : (s.status.isActive && !s.dynamic) = false) :
    (s.register task denied).2.roster = s.roster ++ [(name, task)] ∧
    ((s.register task denied).1 = .ok s.children.length ∨
      ∃ e, (s.register task denied).1 = .error (.spawnFailed name.text e)) := by
  have henrolled : (s.enroll name task).roster = s.roster ++ [(name, task)] := List.map_append
  have hlast : (s.enroll name task).children[s.children.length]? = some (.fresh name task) :=
    List.getElem?_concat_length
  have hspawned : Confined (s.enroll name task)
      ((s.enroll name task).spawnChild s.children.length denied).2 := spawnChild_moves.confined
  rw [register_eq hname hopen, ← henrolled]
  split
  · cases hd : denied s.children.length with
    | none =>
      rw [spawnChild_permitted hlast hd] at hspawned ⊢
      exact ⟨((hspawned.trans (emitStarted_moves _ _).confined).roster), .inl rfl⟩
    | some e =>
      rw [spawnChild_denied hlast hd] at hspawned ⊢
      exact ⟨hspawned.roster, .inr ⟨e, rfl⟩⟩
  · exact ⟨rfl, .inl rfl⟩

theorem register_eq_ok (h : (s.register task denied).1 = .ok i) : i = s.children.length ∧
    ∃ name, s.id.scoped? task.name = some name ∧
      (s.register task denied).2.roster = s.roster ++ [(name, task)] := by
  cases hname : s.id.scoped? task.name with
  | none =>
    rw [register_unnamed hname] at h
    cases h
  | some name =>
    cases hopen : s.status.isActive && !s.dynamic with
    | true =>
      rw [register_closed hname hopen] at h
      cases h
    | false =>
      obtain ⟨hroster, hok | ⟨e, herror⟩⟩ := register_enrolls denied hname hopen
      · rw [hok] at h
        cases h
        exact ⟨rfl, name, rfl, hroster⟩
      · rw [herror] at h
        cases h

end Register

section Checked

/-- What an operation comes to that reads the record at a place directly; nothing beyond the last
record. -/
def within {α : Type} (s : Supervisor) (i : Nat) (result : α) : Option α :=
  if i < s.children.length then some result else none

theorem within_of_lt {α : Type} (h : i < s.children.length) (result : α) :
    s.within i result = some result := if_pos h

/-- A supervisor that counts and reports that a child was started once more. -/
def recordRestart (s : Supervisor) (i : Nat) : Supervisor :=
  let counted := s.modifyChild i Child.counted
  { counted with restarts := counted.restarts + 1 }.emit
    (.restarted i (counted.childName i) ((counted.children[i]?.map Child.generation).getD 0))

def recordDenial (s : Supervisor) (i : Nat) : Supervisor :=
  { s.modifyChild i Child.faulty with status := .degraded }.notifyAll

/-- A restart whose places are checked: the record is read to start the child, and again to count it. -/
def restart? (s : Supervisor) (i : Nat) (denied : Denials) :
    Option (Except Error Unit × Supervisor) := do
  match ← s.within i (s.spawnChild i denied) with
  | (.error e, after) => some (.error e, after)
  | (.ok (), after) => after.within i (.ok (), after.recordRestart i)

/-- A restart for a failure, whose places are checked: the record is read again when it fails. -/
def restartTarget? (denied : Denials) (s : Supervisor) (i : Nat) : Option Supervisor := do
  match ← s.restart? i denied with
  | (.ok (), after) => some after
  | (.error _, after) => after.within i (after.recordDenial i)

/-- The answer to a failure, whose places are checked: that of the child which failed, and those of the
targets in turn. -/
def handleFailure? (s : Supervisor) (i : Nat) (failure : Failure) (now : Nat) (denied : Denials) :
    Option Supervisor := do
  let counted ← s.within i (s.accountFor i failure now)
  if s.admitsAt now then (counted.targets i).foldlM (restartTarget? denied) counted
  -- once the budget is spent, no further record is read
  else some (s.handleFailure i failure now denied)

/-- The start of some children, whose places are checked: each record is read to start the child, and
again to report it. -/
def startChildren? (denied : Denials) :
    (n i : Nat) → Supervisor → Option (Except Error Unit × Supervisor)
  | 0, _, s => some (.ok (), s)
  | n + 1, i, s => do
    match ← s.within i (s.spawnChild i denied) with
    | (.error e, after) => some (.error e, after)
    | (.ok (), after) => startChildren? denied n (i + 1) (← after.within i (after.emitStarted i))

/-- The registration of a child, whose places are checked: that of the new child, if it is started. -/
def register? (s : Supervisor) (task : Task) (denied : Denials) : Option Supervisor :=
  match s.id.scoped? task.name with
  | none => some s
  | some name =>
    if s.status.isActive && !s.dynamic then some s
    else if s.status.isActive then do
      match ← (s.enroll name task).within s.children.length
        ((s.enroll name task).spawnChild s.children.length denied) with
      | (.error _, after) => some after
      | (.ok (), after) => after.within s.children.length (after.emitStarted s.children.length)
    else some (s.enroll name task)

def start? (s : Supervisor) (denied : Denials) : Option Supervisor :=
  if s.status.isActive then some s
  else
    match s.init.head? with
    | some (some _) => some { s with init := s.init.tail }
    | _ => do
      match ← startChildren? denied s.children.length 0 s.readied with
      | (.ok (), after) => some after.notifyAll
      | (.error _, after) => some after.abandonStart

/-- The exit of an instance, whose places are checked once a failure is accepted; before that, nothing is
read of a child that does not exist. -/
def childExited? (s : Supervisor) (inst : Instance) (result : Except Failure Unit) (now : Nat)
    (denied : Denials) : Option Supervisor :=
  if s.accepts inst then
    match result with
    | .ok () => some (s.complete inst.child)
    | .error failure => s.handleFailure? inst.child failure now denied
  else some s

/-- What an action comes to when the place of each record that it reads directly is checked: nothing, if
one of them is beyond the last record. -/
def act? (s : Supervisor) : Action → Option Supervisor
  | .register task denied => s.register? task denied
  | .start denied => s.start? denied
  | .restartChild i denied =>
    match s.ensureChild i with
    | .error _ => some s
    | .ok () => (s.restart? i denied).map (·.2)
  | .reportFailure i failure now denied =>
    match s.ensureChild i with
    | .error _ => some s
    | .ok () => s.handleFailure? i failure now denied
  | .exit k result now denied =>
    match s.instances[k]? with
    | none => some s
    | some inst =>
      if inst.live then
        (s.childExited? inst result now denied).map fun after => { after with
          instances := after.instances.modify k fun inst => { inst with live := false } }
      else some s
  | a => some (s.act a)

theorem restart_eq (s : Supervisor) (i : Nat) (denied : Denials) : s.restart i denied =
    match s.spawnChild i denied with
    | (.error e, after) => (.error e, after)
    | (.ok (), after) => (.ok (), after.recordRestart i) := rfl

theorem restartTarget_eq (s : Supervisor) (i : Nat) (denied : Denials) :
    restartTarget denied s i =
      match s.restart i denied with
      | (.ok (), after) => after
      | (.error _, after) => after.recordDenial i := rfl

theorem spawnChild_length (s : Supervisor) (i : Nat) (denied : Denials) :
    (s.spawnChild i denied).2.children.length = s.children.length :=
  spawnChild_moves.confined.children_length

theorem restart?_eq (h : i < s.children.length) (denied : Denials) :
    s.restart? i denied = some (s.restart i denied) := by
  have hlength := spawnChild_length s i denied
  rw [restart?, within_of_lt h, restart_eq]
  generalize s.spawnChild i denied = spawned at hlength
  obtain ⟨e | _, after⟩ := spawned
  · rfl
  · exact within_of_lt (hlength ▸ h) _

theorem restartTarget?_eq (h : i < s.children.length) (denied : Denials) :
    restartTarget? denied s i = some (restartTarget denied s i) := by
  have hlength : (s.restart i denied).2.children.length = s.children.length :=
    restart_moves.confined.children_length
  rw [restartTarget?, restart?_eq h, restartTarget_eq]
  generalize s.restart i denied = restarted at hlength
  obtain ⟨e | _, after⟩ := restarted
  · exact within_of_lt (hlength ▸ h) _
  · rfl

theorem restartTargets?_eq (indices : List Nat) (s : Supervisor)
    (h : ∀ i ∈ indices, i < s.children.length) : indices.foldlM (restartTarget? denied) s =
      some (indices.foldl (restartTarget denied) s) := by
  induction indices generalizing s with
  | nil => rfl
  | cons i indices ih =>
    obtain ⟨hi, hindices⟩ := List.forall_mem_cons.1 h
    have hlength : (restartTarget denied s i).children.length = s.children.length :=
      (restartTarget_confined s i).children_length
    rw [List.foldlM_cons, restartTarget?_eq hi, List.foldl_cons]
    exact ih _ fun j hj => hlength ▸ hindices j hj

theorem handleFailure?_eq (hsize : s.dependencies.size = s.children.length)
    (h : i < s.children.length) (failure : Failure) (now : Nat) (denied : Denials) :
    s.handleFailure? i failure now denied = some (s.handleFailure i failure now denied) := by
  have htargets : (s.accountFor i failure now).targets i = s.targets i := by
    rw [accountFor, recordFailure_eq]
    simp [targets]
  have hlength : (s.accountFor i failure now).children.length = s.children.length := by simp
  rw [handleFailure?, within_of_lt h]
  cases hadmits : s.admitsAt now with
  | true =>
    rw [handleFailure_eq, hadmits, if_pos rfl, ← htargets]
    refine restartTargets?_eq _ _ fun j hj => ?_
    rw [htargets] at hj
    exact hlength ▸ (targets_valid hsize h).2.2 j hj
  | false => rfl

theorem startChildren?_eq (denied : Denials) (n i : Nat) (s : Supervisor)
    (h : i + n ≤ s.children.length) :
    startChildren? denied n i s = some (startChildren denied n i s) := by
  induction n generalizing i s with
  | zero => rfl
  | succ n ih =>
    have hlength := spawnChild_length s i denied
    rw [startChildren?, within_of_lt (by omega), startChildren]
    generalize s.spawnChild i denied = spawned at hlength
    obtain ⟨e | _, after⟩ := spawned
    · rfl
    · change after.children.length = s.children.length at hlength
      have hreported : (after.emitStarted i).children.length = after.children.length :=
        (emitStarted_moves after i).confined.children_length
      have hrest := ih (i + 1) (after.emitStarted i) (by omega)
      simp only [Option.bind_eq_bind, Option.bind_some]
      rw [within_of_lt (by omega)]
      exact hrest

theorem register?_eq (s : Supervisor) (task : Task) (denied : Denials) :
    s.register? task denied = some (s.register task denied).2 := by
  cases hname : s.id.scoped? task.name with
  | none => rw [register_unnamed hname, register?, hname]
  | some name =>
    cases hopen : s.status.isActive && !s.dynamic with
    | true =>
      rw [register_closed hname hopen, register?, hname]
      exact if_pos hopen
    | false =>
      have hnew : s.children.length < (s.enroll name task).children.length := by
        simp [enroll]
      have hlength := spawnChild_length (s.enroll name task) s.children.length denied
      rw [register_eq hname hopen, register?, hname]
      simp only [hopen, Bool.false_eq_true, if_false]
      split
      · rw [within_of_lt hnew]
        generalize (s.enroll name task).spawnChild s.children.length denied = spawned at hlength
        obtain ⟨e | _, after⟩ := spawned
        · rfl
        · exact within_of_lt (hlength ▸ hnew) _
      · rfl

theorem start?_eq (s : Supervisor) (denied : Denials) :
    s.start? denied = some (s.start denied).2 := by
  cases hactive : s.status.isActive with
  | true => simp only [start?, start, hactive, if_true]
  | false =>
    have hlength : s.readied.children.length = s.children.length := List.length_map _
    have hstarted := startChildren?_eq denied s.children.length 0 s.readied (by omega)
    simp only [start_eq hactive, start?, hactive, hstarted, Bool.false_eq_true, if_false]
    generalize startChildren denied s.children.length 0 s.readied = started
    rcases s.init.head? with _ | _ | failure
    · obtain ⟨e | _, after⟩ := started <;> rfl
    · obtain ⟨e | _, after⟩ := started <;> rfl
    · rfl

theorem childExited?_eq (hsize : s.dependencies.size = s.children.length) (inst : Instance)
    (result : Except Failure Unit) (now : Nat) (denied : Denials) :
    s.childExited? inst result now denied = some (s.childExited inst result now denied) := by
  unfold childExited? childExited
  split
  next haccepts =>
    obtain ⟨-, c, hc, -, -⟩ := accepts_iff.1 haccepts
    cases result with
    | ok => rfl
    | error failure => exact handleFailure?_eq hsize (List.getElem?_eq_some_iff.1 hc).1 _ _ _
  next => rfl

/-- No action reads a record beyond the last one. -/
theorem act?_eq (hsize : s.dependencies.size = s.children.length) (a : Action) :
    s.act? a = some (s.act a) := by
  cases a with
  | register task denied => exact register?_eq s task denied
  | start denied => exact start?_eq s denied
  | restartChild i denied =>
    cases hok : s.ensureChild i with
    | error e => simp only [act?, act, restartChild, hok]
    | ok => simp only [act?, act, restartChild, hok, restart?_eq (ensureChild_ok hok).2, Option.map_some]
  | reportFailure i failure now denied =>
    cases hok : s.ensureChild i with
    | error e => simp only [act?, act, reportFailure, hok]
    | ok =>
      simp only [act?, act, reportFailure, hok]
      exact handleFailure?_eq hsize (ensureChild_ok hok).2 failure now denied
  | exit k result now denied =>
    cases hk : s.instances[k]? with
    | none => simp only [act?, act, exit, hk]
    | some inst =>
      cases hlive : inst.live with
      | false => simp only [act?, act, exit, hk, hlive, Bool.false_eq_true, if_false]
      | true =>
        simp only [act?, act, exit, hk, hlive, if_true, childExited?_eq hsize, Option.map_some]
  | addDependency | superviseChannel | strategy | settings | events | beginStop | stopStep | progress
  | wait | waitLook => rfl

end Checked

theorem after_getElem?_children {c : Child} (s : Supervisor) (history : List Action)
    (hc : s.children[i]? = some c) :
    ∃ c', (s.after history).children[i]? = some c' ∧ c'.name = c.name ∧ c'.task = c.task := by
  have hpost : s.roster[i]? = some c.post := by
    rw [roster, List.getElem?_map, hc, Option.map_some]
  obtain ⟨further, hfurther⟩ := (after_enlarged s history).roster
  have hkept : (s.after history).roster[i]? = some c.post := by
    rw [← hfurther, List.getElem?_append_left (List.getElem?_eq_some_iff.1 hpost).1]
    exact hpost
  rw [roster, List.getElem?_map, Option.map_eq_some_iff] at hkept
  obtain ⟨c', hc', heq⟩ := hkept
  exact ⟨c', hc', congrArg Prod.fst heq, congrArg Prod.snd heq⟩

/-- The dependencies of a supervisor have a row for each child. A child keeps its name and its task at the
place where it was registered, which is the number of children before it. A failure concerns children only,
and whatever is done, no record is read beyond the last one. -/
theorem children_indexed (hs : Reachable s) :
    s.dependencies.size = s.children.length ∧
    (∀ (history : List Action) (i : Nat) (c : Child), s.children[i]? = some c →
      ∃ c', (s.after history).children[i]? = some c' ∧ c'.name = c.name ∧ c'.task = c.task) ∧
    (∀ task denied i, (s.register task denied).1 = .ok i → i = s.children.length ∧
      ∃ name, s.id.scoped? task.name = some name ∧
        (s.register task denied).2.roster = s.roster ++ [(name, task)]) ∧
    (∀ i < s.children.length, ∀ j ∈ s.targets i, j < s.children.length) ∧
    ∀ a, s.act? a = some (s.act a) :=
  ⟨hs.dependencies_size, fun history _ _ => after_getElem?_children s history,
    fun _ _ _ => register_eq_ok, fun _ hi => (targets_valid hs.dependencies_size hi).2.2,
    act?_eq hs.dependencies_size⟩

/-- Two children run, and a third is registered whose thread cannot be created; then a failure of the first
concerns all three. -/
theorem children_indexed_denied_registration : ∃ s, create "sup" = .ok s ∧
    let denied : Denials := fun i => if i = 2 then some .notPermitted else none
    let t := s.after [.register ⟨"c", none⟩ denied, .start noDenials,
      .register ⟨"b", none⟩ noDenials, .register ⟨"a", none⟩ noDenials,
      .strategy (RestartStrategy.standard.withPolicy .restForOne), .settings true false []]
    let boom := Action.reportFailure 0 (.ofMessage "boom") 5 denied
    t.dependencies.size = 3 ∧ t.children.length = 3 ∧ t.targets 0 = [0, 1, 2] ∧
    t.act? boom = some (t.act boom) ∧
    (t.register ⟨"d", none⟩ noDenials).1 = .ok 3 ∧
    (t.register ⟨"d", none⟩ noDenials).2.roster = t.roster ++ [(⟨"sup.d"⟩, ⟨"d", none⟩)] := by
  have hcreated : create "sup" = .ok _ := rfl
  refine ⟨_, hcreated, ?_⟩
  intro denied t boom
  have ht : Reachable t := (Reachable.create hcreated).after _
  have hlength : t.children.length = 3 := rfl
  obtain ⟨hsize, -, hregister, -, hact⟩ := children_indexed ht
  have hok : (t.register ⟨"d", none⟩ noDenials).1 = .ok 3 := rfl
  obtain ⟨-, name, hname, hroster⟩ := hregister _ _ _ hok
  have hscoped : t.id.scoped? "d" = some ⟨"sup.d"⟩ := rfl
  rw [hscoped, Option.some.injEq] at hname
  exact ⟨hsize.trans hlength, hlength, rfl, hact boom, hok, hname ▸ hroster⟩

end Relay.Supervisor
