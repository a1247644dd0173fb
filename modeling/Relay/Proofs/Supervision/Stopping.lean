import Relay.Proofs.Spawn.Reaping
import Relay.Proofs.Supervision.Confinement
import Relay.Proofs.Supervision.Records

namespace Relay.Supervision

def StopPhase.handles : StopPhase → List Nat
  | .joining handles => handles
  | _ => []

/-- The channels that a call of stop has yet to close. -/
def Stopper.unclosed (stopper : Stopper) : List Nat :=
  match stopper.phase with
  | .taking | .joining _ => stopper.closers
  | .closing | .done => []

end Relay.Supervision

namespace Relay.Supervisor

open Supervision Relation

variable {s t u : Supervisor} {i j k : Nat} {denied : Denials}

/-- What one call of stop does in its second half. -/
inductive Stopped (s : Supervisor) (j : Nat) (stopper : Stopper) (t : Supervisor) : Prop
  | take (hp : stopper.phase = .taking)
      (ht : t = { s with tracked := [] }.setStopper j (.joining s.tracked))
  | close (handles : List Nat) (hp : stopper.phase = .joining handles)
      (hexited : ∀ k ∈ handles, s.hasExited k = true)
      (ht : t = { s with
        channels := s.channels.mapIdx fun i closed => closed || stopper.closers.contains i
        }.setStopper j .closing)
  | report (hp : stopper.phase = .closing) (ht : t = (s.emit .stopped).setStopper j .done)

theorem stopStep_cases (h : s.stopStep j = some t) :
    ∃ stopper, s.stoppers[j]? = some stopper ∧ Stopped s j stopper t := by
  unfold stopStep at h
  split at h
  · cases h
  · rename_i stopper hj
    refine ⟨stopper, hj, ?_⟩
    split at h
    · rename_i hp
      cases h
      exact .take hp rfl
    · rename_i handles hp
      split at h
      · rename_i hall
        cases h
        exact .close handles hp (List.all_eq_true.1 hall) rfl
      · cases h
    · rename_i hp
      cases h
      exact .report hp rfl
    · cases h

theorem hasExited_of_kept (h : Kept s.instances t.instances) (hk : s.hasExited k = true) :
    t.hasExited k = true := by
  obtain ⟨inst, hinst, hdead⟩ := (Option.any_eq_true _ _).1 hk
  obtain ⟨inst', hinst', -, -, hlive, -⟩ := h k inst hinst
  rw [hasExited, hinst', Option.any_some, hlive]
  exact hdead

/-- Every thread that was tracked or started meanwhile is still tracked, unless it is finished, and
calls of stop have no part in it. -/
structure Tended (s t : Supervisor) : Prop where
  stoppers : t.stoppers = s.stoppers
  channels : t.channels = s.channels
  closers : t.closers = s.closers
  grown : s.instances.length ≤ t.instances.length
  exited : ∀ k, s.hasExited k = true → t.hasExited k = true
  kept : ∀ k < t.instances.length, k ∈ s.tracked ∨ s.instances.length ≤ k →
    t.hasExited k = true ∨ k ∈ t.tracked
  fresh : ∀ k ∈ t.tracked, k ∈ s.tracked ∨ s.instances.length ≤ k

namespace Tended

theorem trans (hst : Tended s t) (htu : Tended t u) : Tended s u where
  stoppers := htu.stoppers.trans hst.stoppers
  channels := htu.channels.trans hst.channels
  closers := htu.closers.trans hst.closers
  grown := hst.grown.trans htu.grown
  exited k hk := htu.exited k (hst.exited k hk)
  kept := by
    intro k hk hlooked
    rcases Nat.lt_or_ge k t.instances.length with hlt | hge
    · rcases hst.kept k hlt hlooked with hexited | htracked
      · exact .inl (htu.exited k hexited)
      · exact htu.kept k hk (.inl htracked)
    · exact htu.kept k hk (.inr hge)
  fresh := by
    intro k hk
    rcases htu.fresh k hk with htracked | hge
    · exact hst.fresh k htracked
    · exact .inr (hst.grown.trans hge)

theorem of_tracked (hstoppers : t.stoppers = s.stoppers) (hchannels : t.channels = s.channels)
    (hclosers : t.closers = s.closers) (hlength : t.instances.length = s.instances.length)
    (hexited : ∀ k, s.hasExited k = true → t.hasExited k = true) (htracked : t.tracked = s.tracked) :
    Tended s t where
  stoppers := hstoppers
  channels := hchannels
  closers := hclosers
  grown := hlength.ge
  exited := hexited
  kept := by
    rintro k hk (hold | hge)
    · exact .inr (htracked ▸ hold)
    · omega
  fresh k hk := .inl (htracked ▸ hk)

theorem of_eq (hstoppers : t.stoppers = s.stoppers) (hchannels : t.channels = s.channels)
    (hclosers : t.closers = s.closers) (hinstances : t.instances = s.instances)
    (htracked : t.tracked = s.tracked) : Tended s t := by
  apply of_tracked hstoppers hchannels hclosers (congrArg List.length hinstances) _ htracked
  intro k hk
  rwa [hasExited, hinstances]

theorem refl (s : Supervisor) : Tended s s := .of_eq rfl rfl rfl rfl rfl

theorem launch (s : Supervisor) (i : Nat) (c : Child) : Tended s (s.launch i c) where
  stoppers := rfl
  channels := rfl
  closers := rfl
  grown := by simp [Supervisor.launch]
  exited _ hk := hasExited_of_kept (.launch s i c) hk
  kept := by
    intro k hk hlooked
    change _ ∨ k ∈ (Spawn.reap s.hasExited s.tracked).2 ++ [s.instances.length]
    rcases hlooked with htracked | hge
    · -- Only finished threads are reaped.
      cases hexited : s.hasExited k with
      | true => exact .inl (hasExited_of_kept (.launch s i c) hexited)
      | false =>
        exact .inr (List.mem_append_left _ (Spawn.mem_reap_kept.2 ⟨htracked, hexited⟩))
    · simp only [Supervisor.launch, List.length_append, dropHandle_instances_length,
        List.length_singleton] at hk
      obtain rfl : k = s.instances.length := by omega
      exact .inr (List.mem_append_right _ (List.mem_singleton_self _))
  fresh := by
    intro k hk
    rcases List.mem_append.1 hk with hkept | hnew
    · exact .inl (Spawn.mem_reap_kept.1 hkept).1
    · exact .inr (List.mem_singleton.1 hnew).ge

end Tended

theorem Move.tended (h : Move s t) : Tended s t := by
  cases h with
  | record heq _ =>
    rw [heq]
    exact .of_eq rfl rfl rfl rfl rfl
  | drop i heq =>
    subst heq
    have hexited (k : Nat) : s.hasExited k = true → (s.dropHandle i).hasExited k = true :=
      hasExited_of_kept (.dropHandle s i)
    have hlength := s.dropHandle_instances_length i
    rw [dropHandle_eq] at hexited hlength ⊢
    exact .of_tracked rfl rfl rfl hlength hexited rfl
  | launch i c _ heq =>
    subst heq
    exact .launch s i c

theorem Moves.tended (h : Moves s t) : Tended s t := by
  induction h with
  | refl => exact .refl s
  | tail _ hlast ih => exact ih.trans hlast.tended

theorem exit_tended (s : Supervisor) (k : Nat) (result : Except Failure Unit) (now : Nat)
    (denied : Denials) : Tended s (s.exit k result now denied) := by
  unfold exit
  split
  · rename_i inst _
    split
    · have hhandled : Tended s (s.childExited inst result now denied) := by
        rcases childExited_moves s inst result now denied with hmoves | hmoves
        · exact hmoves.tended
        · have hcharged : Tended s { s with budget := s.charged now } := .of_eq rfl rfl rfl rfl rfl
          exact hcharged.trans hmoves.tended
      apply hhandled.trans
      refine .of_tracked rfl rfl rfl (List.length_modify _ _ _) (fun j hj => ?_) rfl
      obtain ⟨other, hother, hdead⟩ := (Option.any_eq_true _ _).1 hj
      rw [hasExited, List.getElem?_modify, hother]
      by_cases hkj : k = j
      · simp [hkj]
      · simpa [hkj] using hdead
    · exact .refl s
  · exact .refl s

/-- Only channels and calls of stop are not the business of an action on children. -/
theorem act_tended {a : Action} (hchannel : a ≠ .superviseChannel) (hbegin : a ≠ .beginStop)
    (hstep : ∀ j, a ≠ .stopStep j) : Tended s (s.act a) := by
  cases a with
  | register task denied =>
    rcases register_moves s task denied with hmoves | ⟨name, hmoves⟩
    · exact hmoves.tended
    · have henrolled : Tended s (s.enroll name task) := .of_eq rfl rfl rfl rfl rfl
      exact henrolled.trans hmoves.tended
  | addDependency child on =>
    obtain ⟨dependencies, -, heq⟩ := addDependency_eq s child on
    rw [act, heq]
    exact .of_eq rfl rfl rfl rfl rfl
  | superviseChannel => exact (hchannel rfl).elim
  | start denied =>
    by_cases hstarts : s.starts
    · have hready : Tended s { s with init := s.init.tail, budget := .fresh } :=
        .of_eq rfl rfl rfl rfl rfl
      exact hready.trans (start_moves hstarts).tended
    · obtain ⟨init, heq⟩ := start_refused hstarts denied
      rw [act, heq]
      exact .of_eq rfl rfl rfl rfl rfl
  | beginStop => exact (hbegin rfl).elim
  | stopStep j => exact (hstep j rfl).elim
  | restartChild i denied =>
    simp only [act, restartChild]
    split
    · exact .refl s
    · exact restart_moves.tended
  | reportFailure i failure now denied =>
    simp only [act, reportFailure]
    split
    · exact .refl s
    · have hcharged : Tended s { s with budget := s.charged now } := .of_eq rfl rfl rfl rfl rfl
      exact hcharged.trans (handleFailure_moves s i failure now denied).tended
  | exit k result now denied => exact exit_tended s k result now denied
  | progress k activity =>
    refine .of_tracked rfl rfl rfl (List.length_modify _ _ _) (fun _ hj => ?_) rfl
    exact hasExited_of_kept (.proceed s.instances k activity) hj
  | strategy | settings | events | wait | waitLook => exact .of_eq rfl rfl rfl rfl rfl

/-- The invariant of all threads and channels: somebody stands for each. -/
structure Accounted (s : Supervisor) : Prop where
  threads : ∀ k < s.instances.length, s.hasExited k = true ∨ k ∈ s.tracked ∨
    ∃ stopper ∈ s.stoppers, k ∈ stopper.phase.handles
  channels : ∀ i < s.channels.length, s.channels[i]? = some true ∨ i ∈ s.closers ∨
    ∃ stopper ∈ s.stoppers, i ∈ stopper.unclosed

theorem Accounted.tended (h : Accounted s) (hst : Tended s t) : Accounted t where
  threads := by
    intro k hk
    rw [hst.stoppers]
    rcases Nat.lt_or_ge k s.instances.length with hlt | hge
    · obtain hexited | htracked | hheld := h.threads k hlt
      · exact .inl (hst.exited k hexited)
      · rcases hst.kept k hk (.inl htracked) with hexited | htracked
        · exact .inl hexited
        · exact .inr (.inl htracked)
      · exact .inr (.inr hheld)
    · rcases hst.kept k hk (.inr hge) with hexited | htracked
      · exact .inl hexited
      · exact .inr (.inl htracked)
  channels := by
    rw [hst.channels, hst.closers, hst.stoppers]
    exact h.channels

theorem Accounted.superviseChannel (h : Accounted s) : Accounted s.superviseChannel where
  threads := h.threads
  channels := by
    intro i hi
    change i < (s.channels ++ [false]).length at hi
    change (s.channels ++ [false])[i]? = some true ∨ i ∈ s.closers ++ [s.channels.length] ∨ _
    rcases Nat.lt_or_ge i s.channels.length with hlt | hge
    · obtain hclosed | hcloser | howed := h.channels i hlt
      · rw [List.getElem?_append_left hlt]
        exact .inl hclosed
      · exact .inr (.inl (List.mem_append_left _ hcloser))
      · exact .inr (.inr howed)
    · rw [List.length_append, List.length_singleton] at hi
      obtain rfl : i = s.channels.length := by omega
      exact .inr (.inl (List.mem_append_right _ (List.mem_singleton_self _)))

theorem Accounted.halt (h : Accounted s) : Accounted s.halt where
  threads := by
    intro k hk
    obtain hexited | htracked | ⟨stopper, hmem, hheld⟩ := h.threads k (halt_instances_length ▸ hk)
    · exact .inl (hasExited_of_kept (.dropHandles s) hexited)
    · exact .inr (.inl htracked)
    · exact .inr (.inr ⟨stopper, List.mem_append_left _ hmem, hheld⟩)
  channels := by
    intro i hi
    obtain hclosed | hcloser | ⟨stopper, hmem, howed⟩ := h.channels i hi
    · exact .inl hclosed
    · exact .inr (.inr ⟨_, List.mem_append_right _ (List.mem_singleton_self _), hcloser⟩)
    · exact .inr (.inr ⟨stopper, List.mem_append_left _ hmem, howed⟩)

/-- A stopper may go on when it hands over, or has dealt with, what it stands for. -/
theorem Accounted.proceed {stopper : Stopper} {phase : StopPhase} (h : Accounted s)
    (hj : s.stoppers[j]? = some stopper) (hinstances : t.instances = s.instances)
    (hclosers : t.closers = s.closers) (hlength : t.channels.length = s.channels.length)
    (hstoppers : t.stoppers = s.stoppers.modify j fun st => { st with phase })
    (hthreads : ∀ k, k ∈ s.tracked ∨ k ∈ stopper.phase.handles →
      s.hasExited k = true ∨ k ∈ t.tracked ∨ k ∈ phase.handles)
    (hclosed : ∀ i : Nat, s.channels[i]? = some true → t.channels[i]? = some true)
    (hunclosed : ∀ i < s.channels.length, i ∈ stopper.unclosed →
      t.channels[i]? = some true ∨ i ∈ Stopper.unclosed { stopper with phase }) : Accounted t := by
  have hmem : { stopper with phase } ∈ t.stoppers :=
    hstoppers ▸ mem_modify_of_getElem? (fun st => { st with phase }) hj
  have hothers {P : Stopper → Prop} (hP : ∃ st ∈ s.stoppers, P st) :
      P stopper ∨ ∃ st ∈ t.stoppers, P st :=
    hstoppers ▸ exists_mem_modify (fun st => { st with phase }) hj hP
  constructor
  · intro k hk
    rw [hinstances] at hk
    have hstands (hk : k ∈ s.tracked ∨ k ∈ stopper.phase.handles) : t.hasExited k = true ∨
        k ∈ t.tracked ∨ ∃ st ∈ t.stoppers, k ∈ st.phase.handles := by
      rw [hasExited, hinstances]
      obtain hexited | htracked | hheld := hthreads k hk
      · exact .inl hexited
      · exact .inr (.inl htracked)
      · exact .inr (.inr ⟨_, hmem, hheld⟩)
    obtain hexited | htracked | hheld := h.threads k hk
    · exact .inl (by rwa [hasExited, hinstances])
    · exact hstands (.inl htracked)
    · rcases hothers hheld with hself | hother
      · exact hstands (.inr hself)
      · exact .inr (.inr hother)
  · intro i hi
    rw [hlength] at hi
    obtain hdone | hcloser | howed := h.channels i hi
    · exact .inl (hclosed i hdone)
    · exact .inr (.inl (hclosers ▸ hcloser))
    · rcases hothers howed with hself | hother
      · rcases hunclosed i hi hself with hdone | howed
        · exact .inl hdone
        · exact .inr (.inr ⟨_, hmem, howed⟩)
      · exact .inr (.inr hother)

theorem Accounted.stopStep {stopper : Stopper} (h : Accounted s) (hj : s.stoppers[j]? = some stopper)
    (hstopped : Stopped s j stopper t) : Accounted t := by
  cases hstopped with
  | take hp ht =>
    subst ht
    refine h.proceed hj rfl rfl rfl rfl ?_ (fun _ hi => hi) ?_
    · rintro k (htracked | hheld)
      · exact .inr (.inr htracked)
      · rw [hp] at hheld
        cases hheld
    · intro i _ howed
      rw [Stopper.unclosed, hp] at howed
      exact .inr howed
  | close handles hp hexited ht =>
    subst ht
    refine h.proceed hj rfl rfl (List.length_mapIdx) rfl ?_ ?_ ?_
    · rintro k (htracked | hheld)
      · exact .inr (.inl htracked)
      · rw [hp] at hheld
        exact .inl (hexited k hheld)
    · intro i hclosed
      change (s.channels.mapIdx _)[i]? = some true
      rw [List.getElem?_mapIdx, hclosed]
      rfl
    · intro i hi howed
      rw [Stopper.unclosed, hp] at howed
      refine .inl ?_
      change (s.channels.mapIdx _)[i]? = some true
      rw [List.getElem?_mapIdx, List.getElem?_eq_getElem hi, Option.map_some,
        List.contains_iff_mem.2 howed, Bool.or_true]
  | report hp ht =>
    subst ht
    refine h.proceed hj rfl rfl rfl rfl ?_ (fun _ hi => hi) ?_
    · rintro k (htracked | hheld)
      · exact .inr (.inl htracked)
      · rw [hp] at hheld
        cases hheld
    · intro i _ howed
      rw [Stopper.unclosed, hp] at howed
      cases howed

/-- What an action does as far as threads and channels are concerned. -/
inductive Stepped (s : Supervisor) (a : Action) (t : Supervisor) : Prop
  | tend (htended : Tended s t)
  | supervise (ha : a = .superviseChannel) (ht : t = s.superviseChannel)
  | halt (ha : a = .beginStop) (hactive : s.status.isActive = true) (ht : t = s.halt)
  | stop (j : Nat) (ha : a = .stopStep j) (stopper : Stopper) (hj : s.stoppers[j]? = some stopper)
      (hstopped : Stopped s j stopper t)

theorem act_stepped (s : Supervisor) (a : Action) : Stepped s a (s.act a) := by
  by_cases hchannel : a = .superviseChannel
  · subst hchannel
    exact .supervise rfl rfl
  by_cases hbegin : a = .beginStop
  · subst hbegin
    cases hactive : s.status.isActive with
    | true =>
      rw [act, beginStop_active hactive]
      exact .halt rfl hactive rfl
    | false =>
      rw [act, beginStop_inactive hactive]
      exact .tend (.refl s)
  by_cases hstep : ∃ j, a = .stopStep j
  · obtain ⟨j, rfl⟩ := hstep
    cases hs : s.stopStep j with
    | none =>
      rw [act, hs]
      exact .tend (.refl s)
    | some t =>
      obtain ⟨stopper, hj, hstopped⟩ := stopStep_cases hs
      rw [act, hs]
      exact .stop j rfl stopper hj hstopped
  · exact .tend (act_tended hchannel hbegin fun j hj => hstep ⟨j, hj⟩)

theorem Accounted.step {a : Action} (h : Accounted s) (hst : Stepped s a t) : Accounted t := by
  cases hst with
  | tend htended => exact h.tended htended
  | supervise _ ht =>
    subst ht
    exact h.superviseChannel
  | halt _ _ ht =>
    subst ht
    exact h.halt
  | stop j _ stopper hj hstopped => exact h.stopStep hj hstopped

theorem Reachable.accounted (hs : Reachable s) : Accounted s := by
  induction hs with
  | create hc =>
    simp only [Supervisor.create] at hc
    split at hc <;> cases hc
    exact ⟨fun _ hk => (Nat.not_lt_zero _ hk).elim, fun _ hi => (Nat.not_lt_zero _ hi).elim⟩
  | act _ a ih => exact ih.step (act_stepped _ a)

/-- The first `n` instances and the first `m` channels were taken over by call `j` of stop. -/
structure TakenOver (n m j : Nat) (s : Supervisor) : Prop where
  instances : n ≤ s.instances.length
  channels : m ≤ s.channels.length
  closers : ∀ i ∈ s.closers, m ≤ i
  tracked : (∃ closers, s.stoppers[j]? = some ⟨.taking, closers⟩) ∨ ∀ k ∈ s.tracked, n ≤ k

section TakenOver

variable {n m : Nat}

theorem TakenOver.halt (s : Supervisor) :
    TakenOver s.instances.length s.channels.length s.stoppers.length s.halt where
  instances := halt_instances_length.ge
  channels := Nat.le_refl _
  closers := nofun
  tracked := .inl ⟨s.closers, List.getElem?_concat_length⟩

theorem getElem?_setStopper_taking {stopper : Stopper} {phase : StopPhase} {closers : List Nat}
    (hj : s.stoppers[j]? = some ⟨.taking, closers⟩) (hi : s.stoppers[i]? = some stopper)
    (hp : stopper.phase ≠ .taking) :
    (s.stoppers.modify i fun st => { st with phase })[j]? = some ⟨.taking, closers⟩ := by
  have hne : i ≠ j := by
    rintro rfl
    rw [hi] at hj
    cases hj
    exact hp rfl
  rw [List.getElem?_modify_ne _ _ hne, hj]

theorem TakenOver.step {a : Action} (h : TakenOver n m j s) (hst : Stepped s a t) :
    TakenOver n m j t := by
  cases hst with
  | tend htended =>
    refine ⟨h.instances.trans htended.grown, htended.channels ▸ h.channels,
      htended.closers ▸ h.closers, ?_⟩
    rcases h.tracked with htaking | htaken
    · exact .inl (htended.stoppers ▸ htaking)
    · refine .inr fun k hk => ?_
      rcases htended.fresh k hk with hold | hnew
      · exact htaken k hold
      · exact h.instances.trans hnew
  | supervise _ ht =>
    subst ht
    refine ⟨h.instances, ?_, fun i hi => ?_, h.tracked⟩
    · change m ≤ (s.channels ++ [false]).length
      rw [List.length_append]
      exact h.channels.trans (Nat.le_add_right _ _)
    · rcases List.mem_append.1 hi with hold | hnew
      · exact h.closers i hold
      · rw [List.mem_singleton.1 hnew]
        exact h.channels
  | halt _ _ ht =>
    subst ht
    refine ⟨h.instances.trans halt_instances_length.ge, h.channels, nofun, ?_⟩
    rcases h.tracked with ⟨closers, hj⟩ | htaken
    · have hlt := (List.getElem?_eq_some_iff.1 hj).1
      refine .inl ⟨closers, ?_⟩
      change (s.stoppers ++ _)[j]? = _
      rw [List.getElem?_append_left hlt, hj]
    · exact .inr htaken
  | stop i _ stopper hi hstopped =>
    cases hstopped with
    | take hp ht =>
      subst ht
      exact ⟨h.instances, h.channels, h.closers, .inr nofun⟩
    | close handles hp _ ht =>
      subst ht
      refine ⟨h.instances, h.channels.trans (List.length_mapIdx).ge, h.closers, ?_⟩
      rcases h.tracked with ⟨closers, hj⟩ | htaken
      · exact .inl ⟨closers, getElem?_setStopper_taking hj hi (by simp [hp])⟩
      · exact .inr htaken
    | report hp ht =>
      subst ht
      refine ⟨h.instances, h.channels, h.closers, ?_⟩
      rcases h.tracked with ⟨closers, hj⟩ | htaken
      · exact .inl ⟨closers, getElem?_setStopper_taking hj hi (by simp [hp])⟩
      · exact .inr htaken

theorem TakenOver.after (h : TakenOver n m j s) (later : List Action) :
    TakenOver n m j (s.after later) := by
  induction later with
  | nil => exact h
  | cons a later ih => exact ih.step (act_stepped _ a)

end TakenOver

end Relay.Supervisor
