import Relay.Proofs.Supervision.Degradation

namespace Relay.Supervision

def Instance.origin (inst : Instance) : Nat × Nat := (inst.child, inst.generation)

end Relay.Supervision

namespace Relay.Supervisor

open Supervision

variable {s t u : Supervisor} {a : Action}

/-- `t` rests like `s` did: nothing was started, no record was touched, and further children, if
any, were never started. -/
structure Rests (s t : Supervisor) : Prop where
  status : t.status = s.status
  instances : t.instances.map Instance.origin = s.instances.map Instance.origin
  children : ∃ added, t.children = s.children ++ added ∧ ∀ c ∈ added, c = .fresh c.name c.task

namespace Rests

theorem of_eq (hs : t.status = s.status) (hi : t.instances = s.instances)
    (hc : t.children = s.children) : Rests s t :=
  ⟨hs, by rw [hi], [], by rw [hc, List.append_nil], nofun⟩

theorem trans (hst : Rests s t) (htu : Rests t u) : Rests s u where
  status := htu.status.trans hst.status
  instances := htu.instances.trans hst.instances
  children := by
    obtain ⟨first, hfirst, hfresh⟩ := hst.children
    obtain ⟨second, hsecond, hfresh'⟩ := htu.children
    refine ⟨first ++ second, by rw [hsecond, hfirst, List.append_assoc], fun c hc => ?_⟩
    rcases List.mem_append.1 hc with hc | hc
    · exact hfresh c hc
    · exact hfresh' c hc

theorem modify (k : Nat) {f : Instance → Instance} (hf : ∀ inst, (f inst).origin = inst.origin) :
    Rests s { s with instances := s.instances.modify k f } where
  status := rfl
  instances := map_modify hf
  children := ⟨[], (List.append_nil _).symm, nofun⟩

theorem enroll (s : Supervisor) (name : Name) (task : Task) : Rests s (s.enroll name task) where
  status := rfl
  instances := rfl
  children := ⟨[.fresh name task], rfl, fun c hc => by rw [List.mem_singleton.1 hc]; rfl⟩

end Rests

theorem ensureChild_of_inactive (h : s.status.isActive = false) (i : Nat) :
    s.ensureChild i = .error .notRunning := by
  simp [ensureChild, h]

theorem restartChild_of_inactive (h : s.status.isActive = false) (i : Nat) (denied : Denials) :
    s.restartChild i denied = (.error .notRunning, s) := by
  simp only [restartChild, ensureChild_of_inactive h]

theorem reportFailure_of_inactive (h : s.status.isActive = false) (i : Nat) (failure : Failure)
    (now : Nat) (denied : Denials) :
    s.reportFailure i failure now denied = (.error .notRunning, s) := by
  simp only [reportFailure, ensureChild_of_inactive h]

theorem accepts_of_inactive (h : s.status.isActive = false) (inst : Instance) :
    s.accepts inst = false := by
  simp [accepts, h]

/-- Whatever is done to an inactive supervisor, short of starting it, lets it rest. -/
theorem act_rests (h : s.status.isActive = false)
    (hstart : ∀ denied, a = .start denied → ¬ s.starts) :
    Rests s (s.act a) ∧ ((∀ strategy, a ≠ .strategy strategy) → (s.act a).budget = s.budget) := by
  cases a with
  | register task denied =>
    cases hname : s.id.scoped? task.name with
    | none =>
      have hrefused : (s.register task denied).2 = s := by simp only [register, hname]
      rw [act, hrefused]
      exact ⟨.of_eq rfl rfl rfl, fun _ => rfl⟩
    | some name =>
      rw [act, register_eq hname (by simp [h])]
      simp only [h, Bool.false_eq_true, if_false]
      exact ⟨.enroll s name task, fun _ => rfl⟩
  | addDependency child on =>
    obtain ⟨dependencies, -, heq⟩ := addDependency_eq s child on
    rw [act, heq]
    exact ⟨.of_eq rfl rfl rfl, fun _ => rfl⟩
  | strategy strategy => exact ⟨.of_eq rfl rfl rfl, fun hother => (hother strategy rfl).elim⟩
  | start denied =>
    obtain ⟨init, heq⟩ := start_refused (hstart denied rfl) denied
    rw [act, heq]
    exact ⟨.of_eq rfl rfl rfl, fun _ => rfl⟩
  | beginStop =>
    rw [act, beginStop_inactive h]
    exact ⟨.of_eq rfl rfl rfl, fun _ => rfl⟩
  | stopStep j =>
    rw [act]
    cases hs : s.stopStep j with
    | none => exact ⟨.of_eq rfl rfl rfl, fun _ => rfl⟩
    | some t =>
      obtain ⟨stopper, -, hstopped⟩ := stopStep_cases hs
      cases hstopped with
      | take _ ht | close _ _ _ ht | report _ ht =>
        rw [ht]
        exact ⟨.of_eq rfl rfl rfl, fun _ => rfl⟩
  | restartChild i denied =>
    rw [act, restartChild_of_inactive h]
    exact ⟨.of_eq rfl rfl rfl, fun _ => rfl⟩
  | reportFailure i failure now denied =>
    rw [act, reportFailure_of_inactive h]
    exact ⟨.of_eq rfl rfl rfl, fun _ => rfl⟩
  | exit k result now denied =>
    simp only [act, exit]
    split
    · rename_i inst _
      split
      · rw [childExited_refused (accepts_of_inactive h inst)]
        exact ⟨.modify k fun _ => rfl, fun _ => rfl⟩
      · exact ⟨.of_eq rfl rfl rfl, fun _ => rfl⟩
    · exact ⟨.of_eq rfl rfl rfl, fun _ => rfl⟩
  | progress k activity => exact ⟨.modify k fun _ => rfl, fun _ => rfl⟩
  | superviseChannel | settings | events | wait | waitLook =>
    exact ⟨.of_eq rfl rfl rfl, fun _ => rfl⟩

/-- No start gets past its hook along a history. -/
def Unstarted (s : Supervisor) (history : List Action) : Prop :=
  ∀ denied earlier, .start denied :: earlier <:+ history → ¬ (s.after earlier).starts

theorem Unstarted.of_cons {history : List Action} (h : s.Unstarted (a :: history)) :
    s.Unstarted history ∧ ∀ denied, a = .start denied → ¬ (s.after history).starts := by
  constructor
  · intro denied earlier hsuffix
    exact h denied earlier (hsuffix.trans (List.suffix_cons a history))
  · rintro denied rfl
    exact h denied history List.suffix_rfl

theorem after_rests (h : s.status.isActive = false) {history : List Action}
    (hunstarted : s.Unstarted history) : Rests s (s.after history) ∧
    ((∀ strategy, Action.strategy strategy ∉ history) → (s.after history).budget = s.budget) := by
  induction history with
  | nil => exact ⟨.of_eq rfl rfl rfl, fun _ => rfl⟩
  | cons a history ih =>
    obtain ⟨hearlier, hlast⟩ := hunstarted.of_cons
    obtain ⟨hrests, hbudget⟩ := ih hearlier
    have hinactive : (s.after history).status.isActive = false := by rw [hrests.status, h]
    obtain ⟨hrests', hbudget'⟩ := act_rests hinactive hlast
    refine ⟨hrests.trans hrests', fun hkept => ?_⟩
    have hlatest : ∀ strategy, a ≠ .strategy strategy := by
      rintro strategy rfl
      exact hkept strategy List.mem_cons_self
    exact (hbudget' hlatest).trans
      (hbudget fun strategy hm => hkept strategy (List.mem_cons_of_mem a hm))

/-- The moments from which a supervisor rests: when a stop finds it active, and when a start fails
for want of a thread. -/
def comesToRest (s : Supervisor) (a : Action) : Prop :=
  a = .beginStop ∧ s.status.isActive = true ∨
    ∃ denied child e, a = .start denied ∧ (s.start denied).1 = .error (.spawnFailed child e)

theorem comesToRest.status (h : s.comesToRest a) : (s.act a).status = .stopped := by
  obtain ⟨rfl, hactive⟩ | ⟨denied, child, e, rfl, hfailed⟩ := h
  · rw [act, beginStop_active hactive]
    rfl
  · cases start_answer s denied with
    | denied _ _ _ _ _ _ _ hs => exact hs
    | active _ ha | hook _ _ _ ha | succeeds _ _ ha => cases ha.symm.trans hfailed

/-- From a stop or a failed start on, until a start gets past its hook, a supervisor stays stopped.
Nothing is started, the records stay as they were, children that are registered meanwhile stay as
they are made, the budget only changes with the strategy, and restarts and reports of failures are
refused. -/
theorem rests_until_start (h : s.comesToRest a) {later : List Action}
    (hunstarted : (s.act a).Unstarted later) :
    let t := (s.act a).after later
    t.status = .stopped ∧
    t.instances.map Instance.origin = (s.act a).instances.map Instance.origin ∧
    (∃ added, t.children = (s.act a).children ++ added ∧ ∀ c ∈ added, c = .fresh c.name c.task) ∧
    ((∀ strategy, Action.strategy strategy ∉ later) → t.budget = (s.act a).budget) ∧
    ∀ i denied, t.restartChild i denied = (.error .notRunning, t) ∧
      ∀ failure now, t.reportFailure i failure now denied = (.error .notRunning, t) := by
  intro t
  have hstopped := h.status
  obtain ⟨hrests, hbudget⟩ := after_rests (by rw [hstopped]; rfl) hunstarted
  have hinactive : t.status.isActive = false := by
    rw [hrests.status, hstopped]
    rfl
  refine ⟨hrests.status.trans hstopped, hrests.instances, hrests.children, hbudget,
    fun i denied => ?_⟩
  exact ⟨restartChild_of_inactive hinactive i denied, fun failure now =>
    reportFailure_of_inactive hinactive i failure now denied⟩

/-- After a stop, a start is prevented by its hook, the child fails late, another one is registered,
and a restart is asked for. -/
theorem rests_until_start_late_failure : ∃ s, create "sup" = .ok s ∧
    let boom := Failure.ofMessage "boom"
    let running := s.after [.start noDenials, .settings false false [none, some boom],
      .register ⟨"a", none⟩ noDenials]
    let t := (running.act .beginStop).after [.restartChild 0 noDenials,
      .register ⟨"b", none⟩ noDenials,
      .exit 0 (.error boom) 7 noDenials, .start noDenials]
    running.status = .running ∧ t.status = .stopped ∧
    t.instances.map Instance.origin = [(0, 1)] ∧ t.children.map (·.state) = [.stopped, .idle] ∧
    t.budget = .fresh ∧ t.restartChild 0 noDenials = (.error .notRunning, t) := by
  have hcreated : create "sup" = .ok _ := rfl
  refine ⟨_, hcreated, ?_⟩
  intro boom running t
  have hunstarted : (running.act .beginStop).Unstarted [.restartChild 0 noDenials,
      .register ⟨"b", none⟩ noDenials, .exit 0 (.error boom) 7 noDenials, .start noDenials] := by
    intro denied earlier hsuffix
    simp only [List.suffix_cons_iff, List.suffix_nil, List.cons.injEq, reduceCtorEq, false_and,
      false_or, or_false] at hsuffix
    obtain ⟨-, rfl⟩ := hsuffix
    exact fun hstarts => hstarts.2 boom rfl
  obtain ⟨hstatus, hinstances, -, hbudget, hrefused⟩ :=
    rests_until_start (.inl ⟨rfl, rfl⟩) hunstarted
  have hkept := hbudget fun strategy hm => by simp at hm
  exact ⟨rfl, hstatus, hinstances, by decide +kernel, hkept, (hrefused 0 noDenials).1⟩

end Relay.Supervisor
