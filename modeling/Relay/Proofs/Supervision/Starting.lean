import Relay.Proofs.Supervision.Failures
import Relay.Proofs.Supervision.Incarnations

namespace Relay.Supervisor

open Supervision

variable {s t : Supervisor} {i k n : Nat} {denied : Denials}

/-- `t` is `s` after the children from `i` on and before `k` were started, and that was reported. -/
inductive Launched : Supervisor → Nat → Nat → Supervisor → Prop
  | nil (s : Supervisor) (i : Nat) : Launched s i i s
  | cons {s t : Supervisor} {i k : Nat} {c : Child} (hc : s.children[i]? = some c)
      (h : Launched ((s.launch i c).emit (.started i c.name.text (c.generation + 1))) (i + 1) k t) :
      Launched s i k t

theorem launch_instances_length (s : Supervisor) (i : Nat) (c : Child) :
    (s.launch i c).instances.length = s.instances.length + 1 := by
  simp [launch]

theorem launch_emitStarted {c : Child} (hc : s.children[i]? = some c) :
    (s.launch i c).emitStarted i =
      (s.launch i c).emit (.started i c.name.text (c.generation + 1)) := by
  have hrecord : (s.launch i c).children[i]? = some (c.launched s.instances.length) := by
    simp [launch, hc]
  rw [emitStarted, hrecord]
  rfl

theorem Launched.le (h : Launched s i k t) : i ≤ k := by
  induction h with
  | nil => exact Nat.le_refl _
  | cons _ _ ih => omega

theorem Launched.children (h : Launched s i k t) (j : Nat) : t.children[j]? =
    s.children[j]?.map fun c =>
      if i ≤ j ∧ j < k then c.launched (s.instances.length + (j - i)) else c := by
  induction h with
  | nil s i =>
    have hnone : ¬ (i ≤ j ∧ j < i) := by omega
    simp [hnone]
  | @cons s t i k c hc h ih =>
    have hik := h.le
    rw [ih]
    change Option.map _ (s.children.modify i (·.launched s.instances.length))[j]? = _
    rw [List.getElem?_modify, Option.map_eq_map, Option.map_map]
    congr 1
    funext d
    change (if i + 1 ≤ j ∧ j < k then
      Child.launched _ ((s.launch i c).instances.length + (j - (i + 1))) else _) = _
    rw [launch_instances_length]
    by_cases hij : i = j
    · subst hij
      have hpast : ¬ i + 1 ≤ i := by omega
      simp only [hpast, false_and, if_false, if_true, Nat.le_refl, true_and, Nat.sub_self,
        Nat.add_zero]
      exact (if_pos hik).symm
    · by_cases hbetween : i + 1 ≤ j ∧ j < k
      · have hfrom : i ≤ j ∧ j < k := ⟨by omega, hbetween.2⟩
        have hnumber : s.instances.length + 1 + (j - (i + 1)) = s.instances.length + (j - i) := by
          omega
        simp only [hij, hbetween, hfrom, hnumber, if_true, if_false, and_self]
      · have hnot : ¬ (i ≤ j ∧ j < k) := by omega
        simp only [hij, hbetween, hnot, if_false]

/-- Children are started up to the first whose thread is denied. -/
theorem startChildren_launched (denied : Denials) (n i : Nat) (s : Supervisor)
    (hn : i + n ≤ s.children.length) : ∃ k t, Launched s i k t ∧
      (∀ j, i ≤ j → j < k → denied j = none) ∧
      (k = i + n ∧ startChildren denied n i s = (.ok (), t) ∨
        k < i + n ∧ ∃ c e, s.children[k]? = some c ∧ denied k = some e ∧
          startChildren denied n i s =
            (.error (.spawnFailed c.name.text e), t.modifyChild k Child.raised)) := by
  induction n generalizing i s with
  | zero => exact ⟨i, s, .nil s i, fun j hle hlt => by omega, .inl ⟨rfl, rfl⟩⟩
  | succ n ih =>
    have hc := List.getElem?_eq_getElem (l := s.children) (i := i) (by omega)
    generalize s.children[i] = c at hc
    cases hd : denied i with
    | some e =>
      refine ⟨i, s, .nil s i, fun j hle hlt => by omega, .inr ⟨by omega, c, e, hc, hd, ?_⟩⟩
      simp only [startChildren, spawnChild_denied hc hd]
    | none =>
      simp only [startChildren, spawnChild_permitted hc hd, launch_emitStarted hc]
      generalize hnext : (s.launch i c).emit (.started i c.name.text (c.generation + 1)) = next
      have hchildren : next.children = s.children.modify i (·.launched s.instances.length) := by
        rw [← hnext]
        rfl
      obtain ⟨k, t, hlaunched, hpermitted, hend⟩ :=
        ih (i + 1) next (by rw [hchildren, List.length_modify]; omega)
      have hik := hlaunched.le
      refine ⟨k, t, .cons hc (hnext ▸ hlaunched), fun j hle hlt => ?_, ?_⟩
      · rcases Nat.eq_or_lt_of_le hle with rfl | hle
        · exact hd
        · exact hpermitted j hle hlt
      · obtain ⟨hk, heq⟩ | ⟨hk, d, e, hd', he, heq⟩ := hend
        · exact .inl ⟨by omega, heq⟩
        · rw [hchildren, List.getElem?_modify_ne _ _ (by omega)] at hd'
          exact .inr ⟨by omega, d, e, hd', he, heq⟩

theorem Reachable.signalled_after (hs : Reachable s) {inst : Instance}
    (hk : s.instances[k]? = some inst) (hsignalled : inst.signalled = true) (later : List Action) :
    ∃ inst', (s.after later).instances[k]? = some inst' ∧ inst'.signalled = true := by
  induction later with
  | nil => exact ⟨inst, hk, hsignalled⟩
  | cons a later ih =>
    obtain ⟨inst', hk', hsignalled'⟩ := ih
    obtain ⟨inst'', hk'', -, -, hsignalled''⟩ :=
      (act_changes (hs.after later).sound a).signalled hk' hsignalled'
    exact ⟨inst'', hk'', hsignalled''⟩

/-- All that is left of an instance that was signalled is its thread. -/
theorem Sound.exit_of_signalled (hs : Sound s) {inst : Instance} (hk : s.instances[k]? = some inst)
    (hsignalled : inst.signalled = true) (result : Except Failure Unit) (now : Nat)
    (denied : Denials) : s.exit k result now denied =
      { s with instances := s.instances.modify k fun inst => { inst with live := false } } := by
  cases hlive : inst.live with
  | true =>
    have hignored := childExited_refused (hs.refuses_signalled hk hsignalled) result now denied
    simp only [exit, hk, hlive, if_true, hignored]
  | false =>
    have hsame : s.instances.modify k (fun inst => { inst with live := false }) = s.instances := by
      refine (modify_congr (g := fun inst => inst) hk ?_).trans (List.modify_id k s.instances)
      rw [← hlive]
    simp only [exit, hk, hlive, hsame, Bool.false_eq_true, if_false]

/-- Once no child holds a handle, no instance that there is then is ever listened to again. -/
theorem Reachable.exit_ignored (hs : Reachable s) (hfree : ∀ c ∈ s.children, c.handle = none)
    (later : List Action) (hk : k < s.instances.length) (result : Except Failure Unit) (now : Nat)
    (denied : Denials) : (s.after later).exit k result now denied = { s.after later with
      instances := (s.after later).instances.modify k
        fun inst => { inst with live := false } } := by
  have hget := List.getElem?_eq_getElem hk
  have hsignalled : s.instances[k].signalled = true := by
    refine (hs.sound.linked.signalled_iff hget).2 fun c hc hheld => ?_
    rw [hfree c hc] at hheld
    cases hheld
  obtain ⟨inst, hk', hsignalled'⟩ := hs.signalled_after hget hsignalled later
  exact (hs.after later).sound.exit_of_signalled hk' hsignalled' result now denied

/-- What is left of a start that failed at child `k`. -/
structure RolledBack (s : Supervisor) (k : Nat) (t : Supervisor) : Prop where
  status : t.status = .stopped
  budget : t.budget = .fresh
  children : ∀ j, t.children[j]? = s.children[j]?.map fun c : Child =>
    { c with
      state := .idle, failed := false, handle := none
      generation := if j ≤ k then c.generation + 1 else c.generation }
  confined : Confined { s with init := s.init.tail, budget := .fresh } t

/-- What a start that succeeds has made of a supervisor. -/
structure Launching (s t : Supervisor) : Prop where
  status : t.status = .running
  budget : t.budget = .fresh
  children : ∀ j, t.children[j]? = s.children[j]?.map fun c : Child =>
    { c with
      state := .running, failed := false, generation := c.generation + 1
      handle := some (s.instances.length + j) }
  confined : Confined { s with init := s.init.tail, budget := .fresh } t

/-- What a start comes to: its answer, and the supervisor afterwards. -/
inductive Begun (s : Supervisor) (denied : Denials) : Except Error Unit → Supervisor → Prop
  | active (h : s.status.isActive = true) : Begun s denied (.error .alreadyStarted) s
  | hook (failure : Failure) (h : s.status.isActive = false)
      (hhook : s.init.head? = some (some failure)) :
      Begun s denied (.error (.initFailed failure)) { s with init := s.init.tail }
  | rolledBack (k : Nat) (c : Child) (e : Spawn.Error) (t : Supervisor) (h : s.starts)
      (hc : s.children[k]? = some c) (hfirst : ∀ j < k, denied j = none) (hd : denied k = some e)
      (ht : RolledBack s k t) : Begun s denied (.error (.spawnFailed c.name.text e)) t
  | started (t : Supervisor) (h : s.starts) (hd : ∀ j < s.children.length, denied j = none)
      (ht : Launching s t) : Begun s denied (.ok ()) t

theorem readied_getElem?_children (s : Supervisor) (j : Nat) :
    s.readied.children[j]? = s.children[j]?.map Child.rested :=
  List.getElem?_map ..

theorem Launched.children_of_readied (h : Launched s.readied 0 k t) (j : Nat) :
    t.children[j]? = s.children[j]?.map fun c =>
      if j < k then c.rested.launched (s.instances.length + j) else c.rested := by
  rw [h.children, readied_getElem?_children, Option.map_map]
  congr 1
  funext c
  simp only [Function.comp_apply, Nat.zero_le, true_and, Nat.sub_zero]
  rfl

theorem Launched.launching (h : Launched s.readied 0 s.children.length t)
    (hrunning : t.status = .running)
    (hconfined : Confined { s with init := s.init.tail, budget := .fresh } t.notifyAll) :
    Launching s t.notifyAll where
  status := hrunning
  budget := hconfined.budget
  children := by
    intro j
    change t.children[j]? = _
    rw [h.children_of_readied]
    cases hc : s.children[j]? with
    | none => rfl
    | some c =>
      have hj := (List.getElem?_eq_some_iff.1 hc).1
      simp only [Option.map_some, hj, if_true]
      rfl
  confined := hconfined

theorem abandonStart_getElem?_children (s : Supervisor) (j : Nat) :
    s.abandonStart.children[j]? = s.children[j]?.map Child.withdrawn := by
  change (s.dropHandles.children.map fun c => { c with state := .idle })[j]? = _
  rw [dropHandles_children, List.map_map, List.getElem?_map]
  rfl

theorem Launched.rolledBack (h : Launched s.readied 0 k t)
    (hconfined : Confined { s with init := s.init.tail, budget := .fresh }
      (t.modifyChild k Child.raised).abandonStart) :
    RolledBack s k (t.modifyChild k Child.raised).abandonStart where
  status := rfl
  budget := hconfined.budget
  children := by
    intro j
    rw [abandonStart_getElem?_children, modifyChild, List.getElem?_modify, h.children_of_readied]
    cases s.children[j]? with
    | none => rfl
    | some c =>
      rcases Nat.lt_trichotomy j k with hlt | rfl | hgt
      · have hne : k ≠ j := by omega
        have hle : j ≤ k := by omega
        simp only [Option.map_some, Option.map_eq_map, hlt, hne, hle, if_true, if_false]
        rfl
      · simp only [Option.map_some, Option.map_eq_map, Nat.lt_irrefl, Nat.le_refl,
          if_true, if_false]
        rfl
      · have hnot : ¬ j < k := by omega
        have hne : k ≠ j := by omega
        have hgt' : ¬ j ≤ k := by omega
        simp only [Option.map_some, Option.map_eq_map, hnot, hne, hgt', if_false]
        rfl
  confined := hconfined

theorem start_of_starts (h : s.starts) : s.start denied =
    match startChildren denied s.children.length 0 s.readied with
    | (.ok (), after) => (.ok (), after.notifyAll)
    | (.error e, after) => (.error e, after.abandonStart) := by
  rw [start_eq h.1]
  split
  · rename_i failure hhook
    exact (h.2 failure hhook).elim
  · rfl

theorem start_begun (s : Supervisor) (denied : Denials) :
    Begun s denied (s.start denied).1 (s.start denied).2 := by
  cases hactive : s.status.isActive with
  | true =>
    simp only [start, hactive, if_true]
    exact .active hactive
  | false =>
    by_cases hhook : ∃ failure, s.init.head? = some (some failure)
    · obtain ⟨failure, hhook⟩ := hhook
      simp only [start_eq hactive, hhook]
      exact .hook failure hactive hhook
    · have hstarts : s.starts := ⟨hactive, fun failure hfails => hhook ⟨failure, hfails⟩⟩
      have hmoves : Moves { s with init := s.init.tail, budget := .fresh } (s.start denied).2 :=
        start_moves hstarts
      have hconfined := hmoves.confined
      have hstatus := startChildren_status denied s.children.length 0 s.readied
      obtain ⟨k, t, hlaunched, hpermitted, hend⟩ :=
        startChildren_launched denied s.children.length 0 s.readied
          (by simp [readied, prepareStart])
      rw [start_of_starts hstarts] at hconfined ⊢
      obtain ⟨rfl, heq⟩ | ⟨-, c, e, hc, hd, heq⟩ := hend
      · rw [Nat.zero_add] at hpermitted hlaunched
        rw [heq] at hconfined hstatus ⊢
        exact .started _ hstarts (fun j => hpermitted j (Nat.zero_le j))
          (hlaunched.launching hstatus hconfined)
      · rw [readied_getElem?_children, Option.map_eq_some_iff] at hc
        obtain ⟨d, hd', rfl⟩ := hc
        rw [heq] at hconfined ⊢
        exact .rolledBack k d e _ hstarts hd' (fun j => hpermitted j (Nat.zero_le j)) hd
          (hlaunched.rolledBack hconfined)

/-- A start is refused and changes nothing but its hook, or it fails and is undone, after which no
exit of an instance that there was then changes more than the state of its thread, or it succeeds.
From a stopped supervisor, it succeeds when its hook and all threads permit it. -/
theorem start_all_or_nothing (hs : Reachable s) (denied : Denials) :
    Begun s denied (s.start denied).1 (s.start denied).2 ∧
    (∀ child e, (s.start denied).1 = .error (.spawnFailed child e) →
      ∀ later number, number < (s.start denied).2.instances.length → ∀ result now denied',
        let t := (s.start denied).2.after later
        t.exit number result now denied' = { t with
          instances := t.instances.modify number fun inst => { inst with live := false } }) ∧
    (s.status = .stopped → (∀ failure, s.init.head? ≠ some (some failure)) →
      (∀ j < s.children.length, denied j = none) → (s.start denied).1 = .ok ()) := by
  have hbegun := start_begun s denied
  refine ⟨hbegun, fun child e hfailed later number hnumber result now denied' => ?_,
    fun hstopped hhook hpermitted => ?_⟩
  · -- Nobody is listened to without a handle, and the failed start has left none.
    have hfree : ∀ c ∈ (s.start denied).2.children, c.handle = none := by
      generalize (s.start denied).1 = answer, (s.start denied).2 = t at hbegun hfailed
      cases hbegun with
      | active | hook | started => cases hfailed
      | rolledBack k c e t _ _ _ _ ht =>
        intro d hd
        obtain ⟨j, hj⟩ := List.mem_iff_getElem?.1 hd
        rw [ht.children, Option.map_eq_some_iff] at hj
        obtain ⟨c, -, rfl⟩ := hj
        rfl
    exact (hs.act (.start denied)).exit_ignored hfree later hnumber result now denied'
  · have hinactive : s.status.isActive = false := by rw [hstopped]; rfl
    generalize (s.start denied).1 = answer, (s.start denied).2 = t at hbegun
    cases hbegun with
    | active h => exact (Bool.false_ne_true (hinactive.symm.trans h)).elim
    | hook failure _ hfails => exact (hhook failure hfails).elim
    | rolledBack k c e t _ hc _ hd =>
      rw [hpermitted k (List.getElem?_eq_some_iff.1 hc).1] at hd
      cases hd
    | started => rfl

/-- A second start fails at the second child, with instances of the first one alive; the third
succeeds, and the failure of what the second had started goes unnoticed. -/
theorem start_all_or_nothing_denied_thread : ∃ s, create "sup" = .ok s ∧
    let denied : Denials := fun i => if i = 1 then some .notPermitted else none
    let t := s.after [.beginStop, .start noDenials, .register ⟨"b", none⟩ noDenials,
      .register ⟨"a", none⟩ noDenials]
    let u := (t.start denied).2
    (t.start denied).1 = .error (.spawnFailed "sup.b" .notPermitted) ∧
    u.children.map (·.generation) = [2, 2] ∧ (u.start noDenials).1 = .ok () ∧
    let v := u.after [.start noDenials]
    v.exit 2 (.error (.ofMessage "boom")) 7 noDenials = { v with
      instances := v.instances.modify 2 fun inst => { inst with live := false } } := by
  have hcreated : create "sup" = .ok _ := rfl
  refine ⟨_, hcreated, ?_⟩
  intro denied t u
  have ht : Reachable t := (Reachable.create hcreated).after _
  have hfailed : (t.start denied).1 = .error (.spawnFailed "sup.b" .notPermitted) := rfl
  have hignored := (start_all_or_nothing ht denied).2.1 _ _ hfailed [.start noDenials] 2 (by decide)
  have hagain := (start_all_or_nothing (ht.act (.start denied)) noDenials).2.2
  exact ⟨hfailed, rfl, hagain rfl nofun fun _ _ => rfl, hignored _ 7 noDenials⟩

end Relay.Supervisor
