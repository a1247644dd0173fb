import Relay.Proofs.Supervision.Starting

namespace Relay.Supervisor

open Supervision

variable {s : Supervisor} {i : Nat} {denied : Denials} {failure : Failure} {now : Nat} {a : Action}
  {history earlier later : List Action} {name : String}

section Failures

theorem restartTarget_degraded (hi : i < s.children.length) :
    (restartTarget denied s i).status = .degraded ↔
      s.status = .degraded ∨ (denied i).isSome = true := by
  have hc := List.getElem?_eq_getElem hi
  cases hd : denied i with
  | none =>
    rw [restartTarget_permitted hc hd]
    simp
  | some e =>
    simp only [restartTarget, restart, spawnChild_denied hc hd]
    simp [notifyAll]

theorem restartTargets_degraded (indices : List Nat) (s : Supervisor)
    (hvalid : ∀ j ∈ indices, j < s.children.length) :
    (indices.foldl (restartTarget denied) s).status = .degraded ↔
      s.status = .degraded ∨ ∃ j ∈ indices, (denied j).isSome = true := by
  induction indices generalizing s with
  | nil => simp
  | cons i indices ih =>
    obtain ⟨hi, hvalid⟩ := List.forall_mem_cons.1 hvalid
    have hlength : (restartTarget denied s i).children.length = s.children.length :=
      (restartTarget_confined s i).children_length
    have hrest := ih (restartTarget denied s i) fun j hj => hlength ▸ hvalid j hj
    rw [List.foldl_cons, hrest, restartTarget_degraded hi, or_assoc, List.exists_mem_cons_iff]

/-- A failure is not answered in full: the budget is exhausted, or a restart is denied that the
failure calls for. -/
def fallsShort (s : Supervisor) (i now : Nat) (denied : Denials) : Prop :=
  s.admitsAt now = false ∨ ∃ j ∈ s.targets i, (denied j).isSome = true

theorem handleFailure_degraded (hs : Reachable s) (hi : i < s.children.length) :
    (s.handleFailure i failure now denied).status = .degraded ↔
      s.status = .degraded ∨ s.fallsShort i now denied := by
  have hvalid : ∀ j ∈ s.targets i, j < (s.accountFor i failure now).children.length := by
    rw [accountFor_children, List.length_modify]
    exact (targets_valid hs.dependencies_size hi).2.2
  rw [handleFailure_eq, fallsShort]
  cases hadmits : s.admitsAt now with
  | true =>
    rw [if_pos rfl, restartTargets_degraded _ _ hvalid, accountFor_status]
    simp
  | false => simp [notifyAll, emit]

/-- An action with which a failure is not answered in full. -/
def degrades (s : Supervisor) (a : Action) : Prop :=
  ∃ i failure now denied ended, s.FailureOf i failure now denied ended a ∧ s.fallsShort i now denied

theorem FailureOf.unique {i' now' : Nat} {failure' : Failure} {denied' : Denials}
    {ended ended' : Option Nat} (h : s.FailureOf i failure now denied ended a)
    (h' : s.FailureOf i' failure' now' denied' ended' a) : i = i' ∧ now = now' ∧ denied = denied' := by
  cases h with
  | report =>
    cases h'
    exact ⟨rfl, rfl, rfl⟩
  | exit hk hchild =>
    cases h' with
    | exit hk' hchild' =>
      rw [hk] at hk'
      cases hk'
      exact ⟨hchild.symm.trans hchild', rfl, rfl⟩

theorem FailureOf.degraded {ended : Option Nat} (hs : Reachable s)
    (h : s.FailureOf i failure now denied ended a) :
    (s.act a).status = .degraded ↔ s.status = .degraded ∨ s.degrades a := by
  have hdegrades : s.degrades a ↔ s.fallsShort i now denied := by
    constructor
    · rintro ⟨_, _, _, _, _, h', hshort⟩
      obtain ⟨rfl, rfl, rfl⟩ := h.unique h'
      exact hshort
    · exact fun hshort => ⟨_, _, _, _, _, h, hshort⟩
  rw [h.act_eq, hdegrades]
  exact handleFailure_degraded hs h.valid.2.1

end Failures

section Starts

inductive StartAnswer (s : Supervisor) (denied : Denials) (answer : Except Error Unit)
    (status : Status) : Prop
  | active (h : s.status.isActive = true) (ha : answer = .error .alreadyStarted)
      (hs : status = s.status)
  | hook (failure : Failure) (h : s.status.isActive = false)
      (hhook : s.init.head? = some (some failure)) (ha : answer = .error (.initFailed failure))
      (hs : status = s.status)
  | denied (h : s.starts) (j : Nat) (hj : j < s.children.length) (child : String) (e : Spawn.Error)
      (hd : denied j = some e) (ha : answer = .error (.spawnFailed child e)) (hs : status = .stopped)
  | succeeds (h : s.starts) (hd : ∀ j < s.children.length, denied j = none) (ha : answer = .ok ())
      (hs : status = .running)

theorem start_answer (s : Supervisor) (denied : Denials) :
    StartAnswer s denied (s.start denied).1 (s.start denied).2.status := by
  have hbegun := start_begun s denied
  generalize (s.start denied).1 = answer, (s.start denied).2 = t at hbegun ⊢
  cases hbegun with
  | active h => exact .active h rfl rfl
  | hook failure h hhook => exact .hook failure h hhook rfl rfl
  | rolledBack k c e t h hc _ hd ht =>
    exact .denied h k (List.getElem?_eq_some_iff.1 hc).1 c.name.text e hd rfl ht.status
  | started t h hd ht => exact .succeeds h hd rfl ht.status

theorem start_running (h : (s.start denied).1 = .ok ()) : (s.start denied).2.status = .running := by
  cases start_answer s denied with
  | succeeds _ _ _ hs => exact hs
  | active _ ha | hook _ _ _ ha | denied _ _ _ _ _ _ ha => cases h.symm.trans ha

end Starts

section Histories

theorem act_degraded (hs : Reachable s) (ha : s.status.isActive = true) (hbegin : a ≠ .beginStop) :
    (s.act a).status = .degraded ↔ s.status = .degraded ∨ s.degrades a := by
  by_cases hfailure : ∃ i failure now denied ended, s.FailureOf i failure now denied ended a
  · obtain ⟨i, failure, now, denied, ended, h⟩ := hfailure
    exact h.degraded hs
  · have hfine : ¬ s.degrades a :=
      fun ⟨i, failure, now, denied, ended, h, _⟩ => hfailure ⟨i, failure, now, denied, ended, h⟩
    rw [act_status (fun _ _ => ha) hbegin hfailure]
    simp [hfine]

/-- Since the latest start that succeeded, there was no stop, and a failure that was not answered in
full. -/
def DegradedSince (s : Supervisor) (history : List Action) : Prop :=
  ∃ since denied before, history = since ++ .start denied :: before ∧
    ((s.after before).start denied).1 = .ok () ∧ (∀ a ∈ since, a ≠ .beginStop) ∧
    ∃ a rest, a :: rest <:+ since ∧ (s.after (rest ++ .start denied :: before)).degrades a

theorem degraded_since {since before : List Action} (hs : create name = .ok s)
    (hok : ((s.after before).start denied).1 = .ok ()) (hbegin : ∀ a ∈ since, a ≠ .beginStop) :
    (s.after (since ++ .start denied :: before)).status = .degraded ↔
      ∃ a rest, a :: rest <:+ since ∧ (s.after (rest ++ .start denied :: before)).degrades a := by
  induction since with
  | nil =>
    have hrunning : (s.after (.start denied :: before)).status = .running := start_running hok
    simp [hrunning]
  | cons b since ih =>
    obtain ⟨hb, hbegin⟩ := List.forall_mem_cons.1 hbegin
    have hactive := (active_iff_started hs _).2 ⟨before, since, denied, rfl, hbegin, hok⟩
    have hreachable := (Reachable.create hs).after (since ++ .start denied :: before)
    apply (act_degraded hreachable hactive hb).trans
    rw [ih hbegin]
    constructor
    · rintro (⟨a, rest, hsuffix, hdegrades⟩ | hdegrades)
      · exact ⟨a, rest, hsuffix.trans (List.suffix_cons b since), hdegrades⟩
      · exact ⟨b, since, List.suffix_rfl, hdegrades⟩
    · rintro ⟨a, rest, hsuffix, hdegrades⟩
      rcases List.suffix_cons_iff.1 hsuffix with heq | hsuffix
      · obtain ⟨rfl, rfl⟩ := List.cons.inj heq
        exact .inr hdegrades
      · exact .inl ⟨a, rest, hsuffix, hdegrades⟩

theorem degraded_iff_since (hs : create name = .ok s) (history : List Action) :
    (s.after history).status = .degraded ↔ DegradedSince s history := by
  constructor
  · intro hdegraded
    have hactive : (s.after history).status.isActive = true := by rw [hdegraded]; rfl
    obtain ⟨before, since, denied, rfl, hbegin, hok⟩ := (active_iff_started hs history).1 hactive
    exact ⟨since, denied, before, rfl, hok, hbegin, (degraded_since hs hok hbegin).1 hdegraded⟩
  · rintro ⟨since, denied, before, rfl, hok, hbegin, hfailed⟩
    exact (degraded_since hs hok hbegin).2 hfailed

theorem act_status_of_inactive (h : s.status.isActive = false) (hstart : ∀ denied, a ≠ .start denied) :
    (s.act a).status = s.status := by
  by_cases hbegin : a = .beginStop
  · rw [hbegin, act, beginStop_inactive h]
  · apply act_status _ hbegin
    · rintro ⟨i, failure, now, denied, ended, hfailure⟩
      exact Bool.false_ne_true (h.symm.trans hfailure.valid.1)
    · intro denied ha
      exact (hstart denied ha).elim

theorem act_activates (h : s.status.isActive = false) (hact : (s.act a).status.isActive = true) :
    ∃ denied, a = .start denied ∧ (s.start denied).1 = .ok () := by
  by_cases hstart : ∃ denied, a = .start denied
  · obtain ⟨denied, rfl⟩ := hstart
    rcases (start_active s denied).1 hact with hactive | hok
    · exact (Bool.false_ne_true (h.symm.trans hactive)).elim
    · exact ⟨denied, rfl, hok⟩
  · rw [act_status_of_inactive h fun denied ha => hstart ⟨denied, ha⟩, h] at hact
    cases hact

/-- Between a moment when a supervisor is degraded and a later one when it is running, it was stopped
while degraded, and then started. -/
theorem recovers_by_restart (hs : Reachable s) (hdegraded : (s.after earlier).status = .degraded)
    (hrunning : (s.after (later ++ earlier)).status = .running) :
    ∃ first second third denied, later = third ++ .start denied :: second ++ .beginStop :: first ∧
      (s.after (first ++ earlier)).status = .degraded ∧
      ((s.after (second ++ .beginStop :: first ++ earlier)).start denied).1 = .ok () := by
  obtain ⟨first, a, rest, rfl, hlast, hturn⟩ :=
    exists_turn (P := fun t => t.status = .degraded) hdegraded (by rw [hrunning]; nofun)
  have hactive : (s.after (first ++ earlier)).status.isActive = true := by rw [hlast]; rfl
  have hstop : a = .beginStop := by
    by_contra hbegin
    exact hturn ((act_degraded (hs.after _) hactive hbegin).2 (.inl hlast))
  subst hstop
  have hstopped : (s.after (.beginStop :: first ++ earlier)).status.isActive = false :=
    beginStop_not_active _
  rw [List.append_assoc] at hrunning
  obtain ⟨second, b, third, rfl, hidle, hturn⟩ :=
    exists_turn (P := fun t => t.status.isActive = false) hstopped (by rw [hrunning]; nofun)
  obtain ⟨denied, rfl, hok⟩ := act_activates hidle (eq_true_of_ne_false hturn)
  exact ⟨first, second, third, denied, by simp, hlast, by simpa using hok⟩

theorem start_created : (s.start denied).2.status = .created ↔
    s.status = .created ∧ ∃ failure, (s.start denied).1 = .error (.initFailed failure) := by
  cases start_answer s denied with
  | active h ha hs =>
    rw [hs]
    constructor
    · intro hcreated
      exact (Status.ne_created h hcreated).elim
    · exact And.left
  | hook failure _ _ ha hs =>
    rw [hs]
    exact ⟨fun hcreated => ⟨hcreated, failure, ha⟩, And.left⟩
  | denied _ _ _ _ _ _ ha hs | succeeds _ _ ha hs =>
    rw [hs]
    constructor
    · intro hcreated
      cases hcreated
    · rintro ⟨-, failure, hfailed⟩
      cases ha.symm.trans hfailed

theorem act_created : (s.act a).status = .created ↔ s.status = .created ∧
    ∀ denied, a = .start denied → ∃ failure, (s.start denied).1 = .error (.initFailed failure) := by
  by_cases hstart : ∃ denied, a = .start denied
  · obtain ⟨denied, rfl⟩ := hstart
    apply start_created.trans
    constructor
    · rintro ⟨hcreated, hfailed⟩
      apply And.intro hcreated
      rintro _ ⟨⟩
      exact hfailed
    · rintro ⟨hcreated, hfailed⟩
      exact ⟨hcreated, hfailed denied rfl⟩
  · have hnone : ∀ denied, a ≠ .start denied := fun denied ha => hstart ⟨denied, ha⟩
    have hsame : (s.act a).status = .created ↔ s.status = .created := by
      cases hactive : s.status.isActive with
      | false => rw [act_status_of_inactive hactive hnone]
      | true =>
        -- A stop ends this, and otherwise the supervisor stays active.
        have hafter : (s.act a).status ≠ .created := by
          by_cases hbegin : a = .beginStop
          · rw [hbegin, act, beginStop_active hactive]
            intro hcreated
            cases hcreated
          · apply Status.ne_created
            rw [act_active hnone hbegin, hactive]
        exact iff_of_false hafter (Status.ne_created hactive)
    rw [hsame]
    exact ⟨fun hcreated => ⟨hcreated, fun denied ha => (hnone denied ha).elim⟩, And.left⟩

theorem created_iff (hs : create name = .ok s) (history : List Action) :
    (s.after history).status = .created ↔ ∀ denied earlier, .start denied :: earlier <:+ history →
      ∃ failure, ((s.after earlier).start denied).1 = .error (.initFailed failure) := by
  induction history with
  | nil => simp [after, create_status hs]
  | cons a history ih =>
    apply act_created.trans
    rw [ih]
    constructor
    · rintro ⟨hearlier, hlast⟩ denied earlier hsuffix
      rcases List.suffix_cons_iff.1 hsuffix with heq | hsuffix
      · obtain ⟨rfl, rfl⟩ := List.cons.inj heq
        exact hlast denied rfl
      · exact hearlier denied earlier hsuffix
    · intro hall
      constructor
      · intro denied earlier hsuffix
        exact hall denied earlier (hsuffix.trans (List.suffix_cons a history))
      · rintro denied rfl
        exact hall denied history List.suffix_rfl

theorem start_spawnFailed :
    (∃ child e, (s.start denied).1 = .error (.spawnFailed child e)) ↔
      s.starts ∧ ∃ j < s.children.length, (denied j).isSome = true := by
  cases start_answer s denied with
  | active h ha =>
    rw [ha]
    constructor
    · nofun
    · rintro ⟨hstarts, -⟩
      exact (Bool.false_ne_true (hstarts.1.symm.trans h)).elim
  | hook failure _ hhook ha =>
    rw [ha]
    constructor
    · nofun
    · rintro ⟨hstarts, -⟩
      exact (hstarts.2 failure hhook).elim
  | denied h j hj child e hd ha =>
    exact ⟨fun _ => ⟨h, j, hj, by rw [hd]; rfl⟩, fun _ => ⟨child, e, ha⟩⟩
  | succeeds _ hd ha =>
    rw [ha]
    constructor
    · nofun
    · rintro ⟨-, j, hj, hdenied⟩
      rw [hd j hj] at hdenied
      cases hdenied

/-- What the status means, all along every history: whether a failure was not answered in full since
the latest start, and whether any start got past its hook. -/
theorem status_meaning (hs : create name = .ok s) (history : List Action) :
    ((s.after history).status = .degraded ↔ DegradedSince s history) ∧
    (∀ earlier later, history = later ++ earlier → (s.after earlier).status = .degraded →
      (s.after history).status = .running →
      ∃ first second third denied, later = third ++ .start denied :: second ++ .beginStop :: first ∧
        (s.after (first ++ earlier)).status = .degraded ∧
        ((s.after (second ++ .beginStop :: first ++ earlier)).start denied).1 = .ok ()) ∧
    ((s.after history).status = .created ↔ ∀ denied earlier, .start denied :: earlier <:+ history →
      ∃ failure, ((s.after earlier).start denied).1 = .error (.initFailed failure)) ∧
    ∀ denied, (∀ failure, ((s.after history).start denied).1 = .error (.initFailed failure) →
        (s.after (.start denied :: history)).status = (s.after history).status) ∧
      ((∃ child e, ((s.after history).start denied).1 = .error (.spawnFailed child e)) ↔
        (s.after history).starts ∧ ∃ j < (s.after history).children.length, (denied j).isSome = true) ∧
      ∀ child e, ((s.after history).start denied).1 = .error (.spawnFailed child e) →
        (s.after (.start denied :: history)).status = .stopped := by
  refine ⟨degraded_iff_since hs history, ?_, created_iff hs history, fun denied => ⟨?_, ?_, ?_⟩⟩
  · rintro earlier later rfl
    exact recovers_by_restart (.create hs)
  · intro failure hfailed
    cases start_answer (s.after history) denied with
    | active _ _ h | hook _ _ _ _ h => exact h
    | denied _ _ _ _ _ _ ha | succeeds _ _ ha => cases ha.symm.trans hfailed
  · exact start_spawnFailed
  · intro child e hfailed
    cases start_answer (s.after history) denied with
    | denied _ _ _ _ _ _ _ h => exact h
    | active _ ha | hook _ _ _ ha | succeeds _ _ ha => cases ha.symm.trans hfailed

/-- A supervisor is degraded by a denied restart, and runs again after a stop and a start. -/
theorem status_meaning_denied_restart : ∃ s, create "sup" = .ok s ∧
    let degraded := [.exit 0 (.error (.ofMessage "boom")) 7 fun _ => some .notPermitted,
      .start noDenials, .register ⟨"a", none⟩ noDenials]
    DegradedSince s degraded ∧
    ¬ DegradedSince s ([.start noDenials, .beginStop] ++ degraded) ∧
    ∃ first second third denied,
      [.start noDenials, .beginStop] = third ++ .start denied :: second ++ .beginStop :: first ∧
      (s.after (first ++ degraded)).status = .degraded ∧
      ((s.after (second ++ .beginStop :: first ++ degraded)).start denied).1 = .ok () := by
  have hcreated : create "sup" = .ok _ := rfl
  refine ⟨_, hcreated, ?_⟩
  intro degraded
  obtain ⟨hdegraded, hrecovered, -⟩ :=
    status_meaning hcreated ([.start noDenials, .beginStop] ++ degraded)
  refine ⟨(status_meaning hcreated degraded).1.1 rfl, fun hsince => ?_, ?_⟩
  · cases hdegraded.2 hsince
  · exact hrecovered degraded _ rfl rfl rfl

end Histories

end Relay.Supervisor
