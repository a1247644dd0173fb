import Relay.Proofs.Supervision.Incarnations

namespace Relay.Supervision

/-- What a look at the status makes of a thread that waits for one. -/
inductive Waiter.Looked (w : Waiter) (status : Status) (now : Nat) : Waiter → Prop
  | settled (reached : Bool) (h : w.phase = .done reached) : Looked w status now w
  | reached (hstatus : status = w.wanted) : Looked w status now { w with phase := .done true }
  | late (hstatus : status ≠ w.wanted) (deadline : Nat) (hdeadline : w.deadline = some deadline)
    (hnow : deadline ≤ now) : Looked w status now { w with phase := .done false }
  | park (hstatus : status ≠ w.wanted) : Looked w status now { w with phase := .parked }

namespace Waiter

variable {w later last : Waiter} {status : Status} {now : Nat}

theorem look_looked (w : Waiter) (status : Status) (now : Nat) :
    w.Looked status now (w.look status now) := by
  unfold look
  split
  · rename_i reached h
    exact .settled reached h
  · split
    · rename_i hstatus
      exact .reached hstatus
    · rename_i hstatus
      split
      · rename_i hlate
        obtain ⟨deadline, hdeadline, hnow⟩ := (Option.any_eq_true _ _).1 hlate
        exact .late hstatus deadline hdeadline (of_decide_eq_true hnow)
      · exact .park hstatus

def woken (w : Waiter) : Waiter := if w.phase = .parked then { w with phase := .notified } else w

theorem woken_of_ne (h : w.phase ≠ .parked) : w.woken = w := if_neg h

theorem woken_ne_parked (w : Waiter) : w.woken.phase ≠ .parked := by
  unfold woken
  split
  · nofun
  · assumption

theorem woken_woken (w : Waiter) : w.woken.woken = w.woken := woken_of_ne w.woken_ne_parked

theorem woken_eq_done_iff {reached : Bool} :
    w.woken.phase = .done reached ↔ w.phase = .done reached := by
  by_cases h : w.phase = .parked
  · simp [woken, h]
  · rw [woken_of_ne h]

theorem woken_deadline (w : Waiter) : w.woken.deadline = w.deadline := by
  unfold woken
  split <;> rfl

theorem woken_wanted (w : Waiter) : w.woken.wanted = w.wanted := by
  unfold woken
  split <;> rfl

/-- A thread is not parked when its status has come, and gives up only if it has a deadline. -/
structure Heeded (status : Status) (w : Waiter) : Prop where
  parked : w.phase = .parked → w.wanted ≠ status
  patient : w.deadline = none → w.phase ≠ .done false

theorem Heeded.woken (h : Heeded status w) (other : Status) : Heeded other w.woken where
  parked hparked := (w.woken_ne_parked hparked).elim
  patient hdeadline := by
    rw [woken_deadline] at hdeadline
    rw [ne_eq, woken_eq_done_iff]
    exact h.patient hdeadline

theorem Heeded.look (h : Heeded status w) (other : Status) (now : Nat) :
    Heeded other (w.look other now) := by
  have hlooked := w.look_looked other now
  generalize w.look other now = later at hlooked
  cases hlooked with
  | settled reached hdone =>
    refine ⟨fun hparked => ?_, h.patient⟩
    cases hdone.symm.trans hparked
  | reached => exact ⟨nofun, fun _ => nofun⟩
  | late _ deadline hdeadline =>
    refine ⟨nofun, fun hnone => ?_⟩
    cases hdeadline.symm.trans hnone
  | park hstatus => exact ⟨fun _ => hstatus.symm, fun _ => nofun⟩

/-- How a thread gets on while the status is the one it waits for: once it is done it stays so, and its time
is not over any more. -/
structure Onward (w later : Waiter) : Prop where
  wanted : later.wanted = w.wanted
  done : w.phase = .done true → later.phase = .done true
  late : later.phase = .done false → w.phase = .done false

theorem Onward.refl (w : Waiter) : Onward w w := ⟨rfl, id, id⟩

theorem Onward.trans (h : Onward w later) (hlast : Onward later last) : Onward w last where
  wanted := hlast.wanted.trans h.wanted
  done hdone := hlast.done (h.done hdone)
  late hlate := h.late (hlast.late hlate)

theorem Onward.woken (w : Waiter) : Onward w w.woken :=
  ⟨w.woken_wanted, woken_eq_done_iff.2, woken_eq_done_iff.1⟩

theorem look_of_reached (hstatus : status = w.wanted) (now : Nat) :
    Onward w (w.look status now) ∧
    (w.phase ≠ .done false → (w.look status now).phase = .done true) := by
  have hlooked := w.look_looked status now
  generalize w.look status now = later at hlooked
  cases hlooked with
  | settled reached hdone =>
    refine ⟨.refl w, fun hopen => ?_⟩
    cases reached with
    | true => exact hdone
    | false => exact (hopen hdone).elim
  | reached => exact ⟨⟨rfl, fun _ => rfl, nofun⟩, fun _ => rfl⟩
  | late hother => exact (hother hstatus).elim
  | park hother => exact (hother hstatus).elim

end Waiter

end Relay.Supervision

namespace Relay.Supervisor

open Supervision

/-- What the threads that wait for a status notice: nothing, as it has not changed, or a notification to
all. -/
inductive Heard (s t : Supervisor) : Prop
  | unchanged (hstatus : t.status = s.status) (hwaiters : t.waiters = s.waiters)
  | notified (hwaiters : t.waiters = s.waiters.map Waiter.woken)

variable {s t u : Supervisor} {i : Nat} {denied : Denials}

theorem Heard.refl (s : Supervisor) : Heard s s := .unchanged rfl rfl

theorem Heard.trans (h : Heard s t) (hlast : Heard t u) : Heard s u := by
  cases h with
  | unchanged hstatus hwaiters =>
    cases hlast with
    | unchanged hstatus' hwaiters' =>
      exact .unchanged (hstatus'.trans hstatus) (hwaiters'.trans hwaiters)
    | notified hwaiters' => exact .notified (by rw [hwaiters', hwaiters])
  | notified hwaiters =>
    cases hlast with
    | unchanged _ hwaiters' => exact .notified (hwaiters'.trans hwaiters)
    | notified hwaiters' =>
      -- Those who were notified before are not parked, so the second notification does nothing.
      refine .notified ?_
      rw [hwaiters', hwaiters, List.map_map]
      exact List.map_congr_left fun w _ => w.woken_woken

theorem notifyAll_waiters (s : Supervisor) : s.notifyAll.waiters = s.waiters.map Waiter.woken := rfl

section Operations

theorem startChildren_waiters (denied : Denials) (n i : Nat) (s : Supervisor) :
    (startChildren denied n i s).2.waiters = s.waiters := by
  refine startChildren_induction (P := fun t => t.waiters = s.waiters) n i s rfl ?_ ?_
  · intro t i ht
    rw [spawnChild_frame, ht]
  · intro t i ht
    rw [emitStarted_eq, ht]

theorem register_heard (s : Supervisor) (task : Task) (denied : Denials) :
    Heard s (s.register task denied).2 := by
  rw [register_frame]
  exact .unchanged rfl rfl

theorem restart_heard (s : Supervisor) (i : Nat) (denied : Denials) :
    Heard s (s.restart i denied).2 := by
  rw [restart_frame]
  exact .unchanged rfl rfl

theorem accountFor_heard (s : Supervisor) (i : Nat) (failure : Failure) (now : Nat) :
    Heard s (s.accountFor i failure now) := by
  rw [accountFor, recordFailure_eq]
  exact .unchanged rfl rfl

theorem complete_heard (s : Supervisor) (i : Nat) : Heard s (s.complete i) := by
  rw [complete, dropHandle_eq]
  exact .unchanged rfl rfl

theorem abandonStart_waiters (s : Supervisor) :
    s.abandonStart.waiters = s.waiters.map Waiter.woken := by
  unfold abandonStart
  simp only [notifyAll_waiters]
  rw [dropHandles_eq]

theorem restartTarget_heard (s : Supervisor) (i : Nat) : Heard s (restartTarget denied s i) := by
  have hrestarted : Heard s (s.restart i denied).2 := restart_heard s i denied
  unfold restartTarget
  split
  · rename_i heq
    rw [heq] at hrestarted
    exact hrestarted
  · rename_i heq
    rw [heq] at hrestarted
    exact hrestarted.trans (.notified rfl)

theorem restartTargets_heard (indices : List Nat) (s : Supervisor) :
    Heard s (indices.foldl (restartTarget denied) s) := by
  induction indices generalizing s with
  | nil => exact .refl s
  | cons i indices ih => exact (restartTarget_heard s i).trans (ih _)

theorem handleFailure_heard (s : Supervisor) (i : Nat) (failure : Failure) (now : Nat)
    (denied : Denials) : Heard s (s.handleFailure i failure now denied) := by
  have haccount := accountFor_heard s i failure now
  rw [handleFailure_eq]
  split
  · exact haccount.trans (restartTargets_heard _ _)
  · exact haccount.trans (.notified rfl)

theorem start_heard (s : Supervisor) (denied : Denials) : Heard s (s.start denied).2 := by
  cases hactive : s.status.isActive with
  | true =>
    simp only [start, hactive, if_true]
    exact .refl s
  | false =>
    have hstarted := startChildren_waiters denied s.children.length 0 s.readied
    rw [start_eq hactive]
    split
    · exact .unchanged rfl rfl
    · split
      · rename_i heq
        rw [heq] at hstarted
        refine .notified ?_
        rw [notifyAll_waiters, hstarted]
        rfl
      · rename_i heq
        rw [heq] at hstarted
        refine .notified ?_
        rw [abandonStart_waiters, hstarted]
        rfl

theorem beginStop_heard (s : Supervisor) : Heard s s.beginStop.2 := by
  cases hactive : s.status.isActive with
  | true =>
    rw [beginStop_active hactive]
    exact .notified rfl
  | false =>
    rw [beginStop_inactive hactive]
    exact .refl s

theorem stopStep_heard (s : Supervisor) (j : Nat) : Heard s ((s.stopStep j).getD s) := by
  cases hs : s.stopStep j with
  | none => exact .refl s
  | some t =>
    refine .unchanged (stopStep_status hs) ?_
    obtain ⟨stopper, -, hstopped⟩ := stopStep_cases hs
    cases hstopped with
    | take _ ht => rw [Option.getD_some, ht]; rfl
    | close _ _ _ ht => rw [Option.getD_some, ht]; rfl
    | report _ ht => rw [Option.getD_some, ht]; rfl

theorem childExited_heard (s : Supervisor) (inst : Instance) (result : Except Failure Unit)
    (now : Nat) (denied : Denials) : Heard s (s.childExited inst result now denied) := by
  unfold childExited
  split
  · cases result with
    | ok => exact complete_heard s inst.child
    | error failure => exact handleFailure_heard s inst.child failure now denied
  · exact .refl s

theorem exit_heard (s : Supervisor) (k : Nat) (result : Except Failure Unit) (now : Nat)
    (denied : Denials) : Heard s (s.exit k result now denied) := by
  unfold exit
  split
  · rename_i inst _
    split
    · exact (childExited_heard s inst result now denied).trans (.unchanged rfl rfl)
    · exact .refl s
  · exact .refl s

end Operations

/-- What an action means for the threads that wait for a status: they hear of it, one more waits, or one
of them looks. -/
inductive Noticed (s t : Supervisor) : Prop
  | heard (h : Heard s t)
  | wait (waiter : Waiter) (now : Nat) (hnew : waiter.phase = .notified)
    (hstatus : t.status = s.status) (hwaiters : t.waiters = s.waiters ++ [waiter.look s.status now])
  | look (w now : Nat) (ht : t = s.waitLook w now)

theorem act_noticed (s : Supervisor) (a : Action) : Noticed s (s.act a) := by
  cases a with
  | register task denied => exact .heard (register_heard s task denied)
  | addDependency child on =>
    obtain ⟨dependencies, -, heq⟩ := addDependency_eq s child on
    rw [act, heq]
    exact .heard (.unchanged rfl rfl)
  | start denied => exact .heard (start_heard s denied)
  | beginStop => exact .heard (beginStop_heard s)
  | stopStep j => exact .heard (stopStep_heard s j)
  | restartChild i denied =>
    simp only [act, restartChild]
    split
    · exact .heard (.refl s)
    · exact .heard (restart_heard s i denied)
  | reportFailure i failure now denied =>
    simp only [act, reportFailure]
    split
    · exact .heard (.refl s)
    · exact .heard (handleFailure_heard s i failure now denied)
  | exit k result now denied => exact .heard (exit_heard s k result now denied)
  | wait wanted timeout asked now => exact .wait _ now rfl rfl rfl
  | waitLook w now => exact .look w now rfl
  | superviseChannel | strategy | settings | events | progress => exact .heard (.unchanged rfl rfl)

theorem Noticed.heeded (h : Noticed s t)
    (hs : ∀ waiter ∈ s.waiters, waiter.Heeded s.status) :
    ∀ waiter ∈ t.waiters, waiter.Heeded t.status := by
  cases h with
  | heard h =>
    cases h with
    | unchanged hstatus hwaiters =>
      rw [hstatus, hwaiters]
      exact hs
    | notified hwaiters =>
      rw [hwaiters, List.forall_mem_map]
      exact fun waiter hwaiter => (hs waiter hwaiter).woken t.status
  | wait waiter now hnew hstatus hwaiters =>
    rw [hstatus, hwaiters, List.forall_mem_append, List.forall_mem_singleton]
    have hfresh : waiter.Heeded s.status := by
      constructor <;> simp [hnew]
    exact ⟨hs, hfresh.look s.status now⟩
  | look w now ht =>
    subst ht
    exact forall_mem_modify w hs (fun _ hw => hw) fun _ hw => hw.look s.status now

theorem Reachable.heeded (hs : Reachable s) : ∀ waiter ∈ s.waiters, waiter.Heeded s.status := by
  induction hs with
  | create hc =>
    simp only [Supervisor.create] at hc
    split at hc <;> cases hc
    exact List.forall_mem_nil _
  | act _ a ih => exact (act_noticed _ a).heeded ih

variable {w : Nat} {waiter : Waiter}

theorem waitLook_getElem?_waiters (hw : s.waiters[w]? = some waiter) (now : Nat) :
    (s.waitLook w now).waiters[w]? = some (waiter.look s.status now) := by
  change (s.waiters.modify w _)[w]? = _
  rw [List.getElem?_modify_eq, hw]
  rfl

theorem act_onward (hw : s.waiters[w]? = some waiter) (hstatus : s.status = waiter.wanted)
    (a : Action) : ∃ later, (s.act a).waiters[w]? = some later ∧ waiter.Onward later := by
  have hlt : w < s.waiters.length := (List.getElem?_eq_some_iff.1 hw).1
  cases act_noticed s a with
  | heard h =>
    cases h with
    | unchanged _ hwaiters => exact ⟨waiter, by rw [hwaiters, hw], .refl waiter⟩
    | notified hwaiters =>
      exact ⟨waiter.woken, by rw [hwaiters, List.getElem?_map, hw]; rfl, .woken waiter⟩
  | wait _ _ _ _ hwaiters =>
    exact ⟨waiter, by rw [hwaiters, List.getElem?_append_left hlt, hw], .refl waiter⟩
  | look j now ht =>
    rw [ht]
    by_cases hj : j = w
    · subst hj
      exact ⟨_, waitLook_getElem?_waiters hw now, (Waiter.look_of_reached hstatus now).1⟩
    · refine ⟨waiter, ?_, .refl waiter⟩
      change (s.waiters.modify j _)[w]? = _
      rw [List.getElem?_modify_ne _ _ hj, hw]

/-- While its status holds, a thread that has looked once is done. -/
theorem after_onward (hw : s.waiters[w]? = some waiter) (history : List Action)
    (hstatus : ∀ earlier, earlier <:+ history → (s.after earlier).status = waiter.wanted) :
    ∃ later, (s.after history).waiters[w]? = some later ∧ waiter.Onward later ∧
      (waiter.phase ≠ .done false → (∃ now, .waitLook w now ∈ history) →
        later.phase = .done true) := by
  induction history with
  | nil =>
    refine ⟨waiter, hw, .refl waiter, fun _ hlook => ?_⟩
    obtain ⟨now, hlook⟩ := hlook
    exact (List.not_mem_nil hlook).elim
  | cons a earlier ih =>
    obtain ⟨later, hlater, honward, hlooked⟩ := ih fun first hfirst =>
      hstatus first (hfirst.trans (List.suffix_cons a earlier))
    have hcame : (s.after earlier).status = later.wanted :=
      (hstatus earlier (List.suffix_cons a earlier)).trans honward.wanted.symm
    obtain ⟨last, hlast, hnext⟩ := act_onward hlater hcame a
    refine ⟨last, hlast, honward.trans hnext, fun hopen hlook => ?_⟩
    obtain ⟨now, hlook⟩ := hlook
    rcases List.mem_cons.1 hlook with rfl | hbefore
    · have hlook := waitLook_getElem?_waiters hlater now
      cases hlast.symm.trans hlook
      exact (Waiter.look_of_reached hcame now).2 fun hlate => hopen (honward.late hlate)
    · exact hnext.done (hlooked hopen ⟨now, hbefore⟩)

/-- Nobody is parked whose status has come, and only those with a deadline give up. While its status holds,
a thread that has not given up is notified or done, and it is done once it has looked. -/
theorem status_waiters_woken (hs : Reachable s) :
    (∀ waiter ∈ s.waiters, waiter.phase = .parked → waiter.wanted ≠ s.status) ∧
    (∀ waiter ∈ s.waiters, waiter.deadline = none → waiter.phase ≠ .done false) ∧
    ∀ w waiter history, s.waiters[w]? = some waiter → waiter.phase ≠ .done false →
      (∀ earlier, earlier <:+ history → (s.after earlier).status = waiter.wanted) →
      ∃ later, (s.after history).waiters[w]? = some later ∧
        (later.phase = .notified ∨ later.phase = .done true) ∧
        ((∃ now, .waitLook w now ∈ history) → later.phase = .done true) := by
  refine ⟨fun waiter hwaiter => (hs.heeded waiter hwaiter).parked,
    fun waiter hwaiter => (hs.heeded waiter hwaiter).patient, ?_⟩
  intro w waiter history hw hopen hstatus
  obtain ⟨later, hlater, honward, hlooked⟩ := after_onward hw history hstatus
  have hheeded := (hs.after history).heeded later (List.mem_of_getElem? hlater)
  refine ⟨later, hlater, ?_, hlooked hopen⟩
  cases hphase : later.phase with
  | parked =>
    have hcame := hstatus history (List.suffix_refl history)
    exact (hheeded.parked hphase (honward.wanted.trans hcame.symm)).elim
  | notified => exact .inl rfl
  | done reached =>
    cases reached with
    | true => exact .inr rfl
    | false => exact (hopen (honward.late hphase)).elim

/-- Two threads wait, one of them without a deadline, when a denied restart degrades the supervisor. Both
look, and the other one parks again. -/
theorem status_waiters_woken_denied_restart : ∃ s, create "sup" = .ok s ∧
    let t := s.after [.exit 0 (.error (.ofMessage "boom")) 7 fun _ => some .notPermitted,
      .wait .stopped ⟨9⟩ 0 0, .wait .degraded .longest 0 0, .start noDenials,
      .register ⟨"a", none⟩ noDenials]
    let looks := [.waitLook 0 12, .waitLook 1 3]
    t.waiters = [⟨.degraded, none, .notified⟩, ⟨.stopped, some 9, .notified⟩] ∧
    (∃ later, (t.after looks).waiters[0]? = some later ∧ later.phase = .done true) ∧
    (t.after looks).waiters[1]? = some ⟨.stopped, some 9, .parked⟩ ∧
    Status.stopped ≠ (t.after looks).status := by
  have hcreated : create "sup" = .ok _ := rfl
  refine ⟨_, hcreated, ?_⟩
  intro t looks
  have ht : Reachable t := (Reachable.create hcreated).after _
  have hwaiters : t.waiters = [⟨.degraded, none, .notified⟩, ⟨.stopped, some 9, .notified⟩] := rfl
  have hdegraded : ∀ earlier, earlier <:+ looks → (t.after earlier).status = .degraded := by
    intro earlier hearlier
    rcases List.suffix_cons_iff.1 hearlier with rfl | hearlier
    · rfl
    rcases List.suffix_cons_iff.1 hearlier with rfl | hearlier
    · rfl
    · rw [List.suffix_nil.1 hearlier]
      rfl
  have hparked : (t.after looks).waiters[1]? = some ⟨.stopped, some 9, .parked⟩ := rfl
  obtain ⟨-, hpatient, hreached⟩ := status_waiters_woken ht
  have hopen := hpatient ⟨.degraded, none, .notified⟩ (List.mem_cons_self) rfl
  obtain ⟨later, hlater, -, hlooked⟩ := hreached 0 _ looks rfl hopen hdegraded
  refine ⟨hwaiters, ⟨later, hlater, hlooked ⟨12, List.mem_cons_self⟩⟩, hparked, ?_⟩
  exact (status_waiters_woken (ht.after looks)).1 _ (List.mem_of_getElem? hparked) rfl

end Relay.Supervisor
