import Relay.Proofs.Supervision.Recovery
import Relay.Proofs.Supervision.Stopping

namespace Relay.Supervision.Status

theorem ne_created {status : Status} (ha : status.isActive = true) : status ≠ .created := by
  rintro rfl
  cases ha

end Relay.Supervision.Status

namespace Relay.Supervisor

open Supervision

variable {s t : Supervisor} {i j : Nat} {denied : Denials}

section Status

theorem spawnChild_status : (s.spawnChild i denied).2.status = s.status := by
  rw [spawnChild_frame]

theorem emitStarted_status : (s.emitStarted i).status = s.status := by
  rw [emitStarted_eq]

theorem restart_status : (s.restart i denied).2.status = s.status := by
  rw [restart_frame]

theorem startChildren_status (denied : Denials) (n i : Nat) (s : Supervisor) :
    (startChildren denied n i s).2.status = s.status :=
  startChildren_induction (P := fun t => t.status = s.status) n i s rfl
    (fun _ _ ht => spawnChild_status.trans ht) fun _ _ ht => emitStarted_status.trans ht

theorem register_status (s : Supervisor) (task : Task) (denied : Denials) :
    (s.register task denied).2.status = s.status := by
  rw [register_frame]

theorem stopStep_status (h : s.stopStep j = some t) : t.status = s.status := by
  obtain ⟨stopper, -, hstopped⟩ := stopStep_cases h
  cases hstopped with
  | take _ ht => rw [ht]; rfl
  | close _ _ _ ht => rw [ht]; rfl
  | report _ ht => rw [ht]; rfl

theorem handleFailure_active (ha : s.status.isActive = true) (failure : Failure) (now : Nat) :
    (s.handleFailure i failure now denied).status.isActive = true := by
  have htargets (indices : List Nat) : ∀ t : Supervisor, t.status.isActive = true →
      (indices.foldl (restartTarget denied) t).status.isActive = true := by
    induction indices with
    | nil => exact fun _ ht => ht
    | cons i indices ih => exact fun t ht => ih _ (restartTarget_status ht)
  rw [handleFailure_eq]
  split
  · apply htargets
    rw [accountFor_status]
    exact ha
  · rfl

/-- Apart from starts and stops, only the answer to a failure changes the status. -/
theorem act_status {a : Action} (hstart : ∀ denied, a = .start denied → s.status.isActive = true)
    (hbegin : a ≠ .beginStop)
    (hfailure : ¬ ∃ i failure now denied ended, s.FailureOf i failure now denied ended a) :
    (s.act a).status = s.status := by
  cases a with
  | register task denied => exact register_status s task denied
  | addDependency child on =>
    obtain ⟨dependencies, -, heq⟩ := addDependency_eq s child on
    rw [act, heq]
  | start denied => simp only [act, start, hstart denied rfl, if_true]
  | beginStop => exact (hbegin rfl).elim
  | stopStep j =>
    cases hs : s.stopStep j with
    | none => rw [act, hs, Option.getD_none]
    | some t => rw [act, hs, Option.getD_some, stopStep_status hs]
  | restartChild i denied =>
    simp only [act, restartChild]
    split
    · rfl
    · rw [restart_status]
  | reportFailure i failure now denied =>
    simp only [act, reportFailure]
    split
    · rfl
    · rename_i hok
      exact (hfailure ⟨i, failure, now, denied, none, .report hok⟩).elim
  | exit k result now denied =>
    simp only [act, exit]
    split
    · rename_i inst hk
      split
      · rename_i hlive
        change (s.childExited inst result now denied).status = s.status
        cases haccepts : s.accepts inst with
        | false => rw [childExited_refused haccepts]
        | true =>
          cases result with
          | ok =>
            simp only [childExited, haccepts, if_true]
            exact complete_status inst.child
          | error failure =>
            have h : s.FailureOf inst.child failure now denied (some k) _ :=
              .exit hk rfl hlive haccepts
            exact (hfailure ⟨_, _, _, _, _, h⟩).elim
      · rfl
    · rfl
  | superviseChannel | strategy | settings | events | progress | wait | waitLook => rfl

theorem act_active {a : Action} (hstart : ∀ denied, a ≠ .start denied) (hbegin : a ≠ .beginStop) :
    (s.act a).status.isActive = s.status.isActive := by
  by_cases hfailure : ∃ i failure now denied ended, s.FailureOf i failure now denied ended a
  · obtain ⟨i, failure, now, denied, ended, h⟩ := hfailure
    have ha := h.valid.1
    rw [h.act_eq]
    exact (handleFailure_active ha failure now).trans ha.symm
  · rw [act_status (fun denied ha => (hstart denied ha).elim) hbegin hfailure]

theorem start_active (s : Supervisor) (denied : Denials) : (s.start denied).2.status.isActive = true ↔
    s.status.isActive = true ∨ (s.start denied).1 = .ok () := by
  cases hactive : s.status.isActive with
  | true => simp [start, hactive]
  | false =>
    have hstarted := startChildren_status denied s.children.length 0 s.readied
    rw [start_eq hactive]
    split
    · simp [hactive]
    · split
      · rename_i heq
        rw [heq] at hstarted
        have hrunning : Supervisor.status (notifyAll _) = .running := hstarted
        rw [hrunning]
        simp [Status.isActive]
      · simp [abandonStart, notifyAll, Status.isActive]

end Status

theorem act_stoppers_length {a : Action} (hbegin : a ≠ .beginStop) :
    (s.act a).stoppers.length = s.stoppers.length := by
  cases act_stepped s a with
  | tend htended => rw [htended.stoppers]
  | supervise _ ht => rw [ht]; rfl
  | halt ha => exact (hbegin ha).elim
  | stop j _ stopper _ hstopped =>
    cases hstopped with
    | take _ ht => rw [ht]; exact List.length_modify _ _ _
    | close _ _ _ ht => rw [ht]; exact List.length_modify _ _ _
    | report _ ht => rw [ht]; exact List.length_modify _ _ _

theorem after_stoppers_length {since before : List Action} (hbegin : ∀ a ∈ since, a ≠ .beginStop) :
    (s.after (since ++ before)).stoppers.length = (s.after before).stoppers.length := by
  induction since with
  | nil => rfl
  | cons a since ih =>
    obtain ⟨ha, hbegin⟩ := List.forall_mem_cons.1 hbegin
    exact (act_stoppers_length ha).trans (ih hbegin)

/-- The latest incarnation of a supervisor began after the history `before`, and was not stopped. -/
def StartedAfter (s : Supervisor) (history before : List Action) : Prop :=
  ∃ since denied, history = since ++ .start denied :: before ∧ (∀ a ∈ since, a ≠ .beginStop) ∧
    ((s.after before).start denied).1 = .ok ()

section StartedAfter

variable {a : Action} {history before : List Action}

theorem StartedAfter.cons (h : StartedAfter s history before) (ha : a ≠ .beginStop) :
    StartedAfter s (a :: history) before := by
  obtain ⟨since, denied, rfl, hbegin, hok⟩ := h
  exact ⟨a :: since, denied, rfl, List.forall_mem_cons.2 ⟨ha, hbegin⟩, hok⟩

theorem StartedAfter.of_cons (h : StartedAfter s (a :: history) before) : a ≠ .beginStop ∧
    (StartedAfter s history before ∨
      ∃ denied, a = .start denied ∧ before = history ∧ ((s.after history).start denied).1 = .ok ()) := by
  obtain ⟨since, denied, heq, hbegin, hok⟩ := h
  cases since with
  | nil =>
    obtain ⟨rfl, rfl⟩ := List.cons.inj heq
    exact ⟨nofun, .inr ⟨denied, rfl, rfl, hok⟩⟩
  | cons b since =>
    obtain ⟨rfl, rfl⟩ := List.cons.inj heq
    obtain ⟨ha, hbegin⟩ := List.forall_mem_cons.1 hbegin
    exact ⟨ha, .inl ⟨since, denied, rfl, hbegin, hok⟩⟩

theorem not_active_of_create {name : String} (hs : create name = .ok s) :
    s.status.isActive = false := by
  rw [create_status hs]
  rfl

theorem beginStop_not_active (s : Supervisor) : (s.act .beginStop).status.isActive = false := by
  cases ha : s.status.isActive with
  | true =>
    rw [act, beginStop_active ha]
    rfl
  | false => rw [act, beginStop_inactive ha, ha]

/-- A supervisor is active from a start that succeeds until the next stop. -/
theorem active_iff_started {name : String} (hs : create name = .ok s) (history : List Action) :
    (s.after history).status.isActive = true ↔ ∃ before, StartedAfter s history before := by
  induction history with
  | nil =>
    constructor
    · intro hactive
      exact (Bool.false_ne_true ((not_active_of_create hs).symm.trans hactive)).elim
    · rintro ⟨before, since, denied, heq, -⟩
      cases since <;> cases heq
  | cons a history ih =>
    have hkinds : (∃ denied, a = .start denied) ∨ a = .beginStop ∨
        (∀ denied, a ≠ .start denied) ∧ a ≠ .beginStop := by cases a <;> simp
    -- A start may succeed or change nothing, a stop ends it all, and nothing else counts.
    obtain ⟨denied, rfl⟩ | rfl | ⟨hstart, hbegin⟩ := hkinds
    · apply (start_active (s.after history) denied).trans
      constructor
      · rintro (hactive | hok)
        · obtain ⟨before, hstarted⟩ := ih.1 hactive
          exact ⟨before, hstarted.cons nofun⟩
        · exact ⟨history, [], denied, rfl, nofun, hok⟩
      · rintro ⟨before, hstarted⟩
        obtain ⟨-, hearlier | ⟨denied', heq, rfl, hok⟩⟩ := hstarted.of_cons
        · exact .inl (ih.2 ⟨before, hearlier⟩)
        · cases heq
          exact .inr hok
    · constructor
      · intro hactive
        have hstopped := beginStop_not_active (s.after history)
        exact (Bool.false_ne_true (hstopped.symm.trans hactive)).elim
      · rintro ⟨before, hstarted⟩
        exact (hstarted.of_cons.1 rfl).elim
    · rw [after, act_active hstart hbegin, ih]
      constructor
      · rintro ⟨before, hstarted⟩
        exact ⟨before, hstarted.cons hbegin⟩
      · rintro ⟨before, hstarted⟩
        obtain ⟨-, hearlier | ⟨denied, heq, -⟩⟩ := hstarted.of_cons
        · exact ⟨before, hearlier⟩
        · exact (hstart denied heq).elim

end StartedAfter

/-- Whether the next step of a call of stop closes a channel, or reports that the supervisor stopped. -/
def concludes (s : Supervisor) (j : Nat) : Bool :=
  s.stoppers[j]?.any fun stopper =>
    match stopper.phase with
    | .joining handles => handles.all s.hasExited && !stopper.closers.isEmpty
    | .closing => true
    | .taking | .done => false

/-- Any other step of a stop touches no channel and reports nothing. -/
theorem stopStep_eq_of_not_concludes (h : s.concludes j = false) :
    (s.act (.stopStep j)).channels = s.channels ∧ (s.act (.stopStep j)).events = s.events := by
  cases hs : s.stopStep j with
  | none =>
    rw [act, hs]
    exact ⟨rfl, rfl⟩
  | some t =>
    obtain ⟨stopper, hj, hstopped⟩ := stopStep_cases hs
    rw [act, hs]
    rw [concludes, hj, Option.any_some] at h
    cases hstopped with
    | take _ ht => exact ⟨by rw [ht]; rfl, by rw [ht]; rfl⟩
    | close handles hp hexited ht =>
      simp only [hp, List.all_eq_true.2 hexited, Bool.true_and] at h
      have hnone : stopper.closers = [] := by simpa using h
      refine ⟨?_, by rw [ht]; rfl⟩
      rw [ht, hnone]
      change s.channels.mapIdx _ = s.channels
      simp [List.mapIdx_eq_iff]
    | report hp _ =>
      rw [hp] at h
      cases h

/-- A stop was overtaken: the supervisor was started after its first half, and not stopped since. -/
def Overtaken (s : Supervisor) (j : Nat) (history : List Action) : Prop :=
  ∃ before, StartedAfter s history before ∧ j < (s.after before).stoppers.length

theorem overtaken_iff_active {name : String} (hs : create name = .ok s) {history : List Action}
    (hj : j < (s.after history).stoppers.length) :
    Overtaken s j history ↔ (s.after history).status.isActive = true := by
  rw [active_iff_started hs]
  constructor
  · rintro ⟨before, hstarted, -⟩
    exact ⟨before, hstarted⟩
  · rintro ⟨before, hstarted⟩
    refine ⟨before, hstarted, ?_⟩
    obtain ⟨since, denied, rfl, hbegin, -⟩ := hstarted
    have hsince : (s.after (since ++ .start denied :: before)).stoppers.length =
        (s.after (.start denied :: before)).stoppers.length := after_stoppers_length hbegin
    have hstart : (s.after (.start denied :: before)).stoppers.length =
        (s.after before).stoppers.length := act_stoppers_length nofun
    omega

/-- Along a history, no stop closes a channel or reports that its supervisor stopped while that is
active, exactly when none of them does so after it was overtaken. -/
theorem concludes_inactive_iff {name : String} (hs : create name = .ok s) (history : List Action) :
    (∀ j earlier, .stopStep j :: earlier <:+ history → (s.after earlier).concludes j = true →
      (s.after earlier).status.isActive = false) ↔
    ∀ j earlier, .stopStep j :: earlier <:+ history → (s.after earlier).concludes j = true →
      ¬ Overtaken s j earlier := by
  have hstep (j : Nat) (earlier : List Action) (hc : (s.after earlier).concludes j = true) :
      (s.after earlier).status.isActive = false ↔ ¬ Overtaken s j earlier := by
    obtain ⟨stopper, hj, -⟩ := (Option.any_eq_true _ _).1 hc
    rw [overtaken_iff_active hs (List.getElem?_eq_some_iff.1 hj).1, Bool.not_eq_true]
  constructor
  · intro hall j earlier hsuffix hc
    exact (hstep j earlier hc).1 (hall j earlier hsuffix hc)
  · intro hnone j earlier hsuffix hc
    exact (hstep j earlier hc).2 (hnone j earlier hsuffix hc)

theorem concludes_inactive_one_start : ∃ s, create "sup" = .ok s ∧
    ∀ j earlier, .stopStep j :: earlier <:+ [.stopStep 0, .stopStep 0, .exit 0 (.ok ()) 0 noDenials,
        .stopStep 0, .beginStop, .start noDenials, .superviseChannel,
        .register ⟨"a", none⟩ noDenials] →
      (s.after earlier).concludes j = true → (s.after earlier).status.isActive = false := by
  have hcreated : create "sup" = .ok _ := rfl
  refine ⟨_, hcreated, (concludes_inactive_iff hcreated _).2 ?_⟩
  rintro j earlier hsuffix - ⟨before, ⟨since, denied, rfl, -⟩, hj⟩
  -- The only start comes before the stop.
  have hstart := ((List.suffix_append since _).trans (List.suffix_cons _ _)).trans hsuffix
  simp only [List.suffix_cons_iff, List.suffix_nil, List.cons.injEq, reduceCtorEq, false_and,
    false_or, or_false] at hstart
  obtain ⟨-, rfl⟩ := hstart
  exact (Nat.not_lt_zero j hj).elim

/-- A start overtakes a stop that still joins; the stop then closes a channel of the running
supervisor, and reports that it stopped. -/
theorem overtaken_stop_concludes : ∃ s t, create "sup" = .ok s ∧
    t = s.after [.exit 0 (.ok ()) 0 noDenials, .start noDenials, .stopStep 0, .beginStop,
      .start noDenials, .superviseChannel, .events (some ⟨8, .plain, [], false⟩),
      .register ⟨"a", none⟩ noDenials] ∧
    t.status = .running ∧ t.channels = [false] ∧ (t.act (.stopStep 0)).channels = [true] ∧
    (t.act (.stopStep 0)).status = .running ∧
    (t.after [.stopStep 0, .stopStep 0]).events.map (·.buffer) =
      some [.started 0 "sup.a" 1, .started 0 "sup.a" 2, .stopped] := by
  have hcreated : create "sup" = .ok _ := rfl
  refine ⟨_, _, hcreated, rfl, ?_⟩
  decide +kernel

end Relay.Supervisor
