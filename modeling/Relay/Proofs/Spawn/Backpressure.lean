import Relay.Proofs.Spawn.Waiting
import Relay.Spawn.Settings

namespace Relay.Spawn.Pool

/-- What calls may count on. One parks, or is refused for want of a slot, only while some slot is held. While
none is, a call that is permitted gets its task started, and returns with it unless another one has locked the
handles; and to a call that is parked a notification is on its way. -/
structure Admits (p : Pool) : Prop where
  waits : ∀ i q, p.step (.look i) = some q → q.phase? i = some .parked → 0 < p.held
  refuses : ∀ i q limit, p.step (.look i) = some q →
    q.result? i = some (.error (.saturated limit)) → 0 < p.held
  starts : p.held = 0 → ∀ i, p.phase? i = some .asking → ∃ q,
    p.run [.ask i true, .look i, .create i none] = some q ∧
    q.phase? i = some (.started p.tasks.length) ∧
    (p.isLocked = false → ∃ r, q.step (.track i) = some r ∧ r.result? i = some (.ok p.tasks.length))
  awakens : p.held = 0 → 0 < p.parked → 0 < p.notified + p.notices

variable {config : Config} {p q : Pool} {i : Nat} {phase : CallPhase}

theorem Stepped.look_cases (h : Stepped p (.look i) q) :
    q.phase? i = some .holding ∨ ∃ limit, p.config.limit = some limit ∧ limit ≤ p.active := by
  cases h with
  | refuse h hlook hlimit hfull => exact .inr ⟨_, hlimit, hfull⟩
  | park h hlook hlimit hfull => exact .inr ⟨_, hlimit, hfull⟩
  | acquire h => exact .inl (phase?_setCall_self h)

theorem Reachable.held_pos (hp : Reachable config p) (hlimit : config.limit ≠ some 0)
    (h : p.step (.look i) = some q) (hq : q.phase? i ≠ some .holding) : 0 < p.held := by
  obtain hholds | ⟨limit, hconfig, hfull⟩ := (step_stepped h).look_cases
  · exact absurd hholds hq
  · rw [← hp.balanced.counted]
    refine (Nat.pos_of_ne_zero ?_).trans_le hfull
    rintro rfl
    exact hlimit (hp.config_eq ▸ hconfig)

theorem isLocked_setCall (h : p.isLocked = false) {new : CallPhase} (hnew : new.locks = false) :
    (p.setCall i new).isLocked = false := by
  rw [isLocked, List.any_eq_false] at h ⊢
  refine forall_mem_modify i h (fun _ hc => hc) fun _ _ => ?_
  rw [hnew]
  exact Bool.false_ne_true

theorem run_cons {r : Pool} {event : Event} {events : List Event} (h : p.step event = some q)
    (hrest : q.run events = some r) : p.run (event :: events) = some r :=
  Option.bind_eq_some_iff.2 ⟨q, h, hrest⟩

theorem step_ask (h : p.phase? i = some .asking) :
    p.step (.ask i true) = some (p.setCall i .arriving) := by
  simp only [step, h, if_true]

theorem step_look (h : p.phase? i = some phase) (hlook : phase.mayLook = true)
    (hroom : p.isSaturated = false) :
    p.step (.look i) = some { p.setCall i .holding with active := p.active + 1 } := by
  rw [step, h, Option.any_some, if_pos hlook, acquire_eq hroom]

theorem step_create (h : p.phase? i = some .holding) : p.step (.create i none) =
    some { p.setCall i (.started p.tasks.length) with tasks := p.tasks ++ [.running] } := by
  simp only [step, h]

theorem step_track {task : Nat} (h : p.phase? i = some (.started task)) (hfree : p.isLocked = false) :
    ∃ q, p.step (.track i) = some q ∧ q.result? i = some (.ok task) := by
  simp only [step, h, hfree]
  exact ⟨_, rfl, result?_eq_some_iff.2 (phase?_setCall_self (p := p) h)⟩

theorem run_starts (h : p.phase? i = some .asking) (hroom : (p.setCall i .arriving).isSaturated = false) :
    ∃ q, p.run [.ask i true, .look i, .create i none] = some q ∧
    q.phase? i = some (.started p.tasks.length) ∧
    (p.isLocked = false → ∃ r, q.step (.track i) = some r ∧
      r.result? i = some (.ok p.tasks.length)) := by
  have harrives : (p.setCall i .arriving).phase? i = some .arriving := phase?_setCall_self h
  have hholds : ((p.setCall i .arriving).setCall i .holding).phase? i = some .holding :=
    phase?_setCall_self harrives
  have hstarted := @phase?_setCall_self _ i _ (.started p.tasks.length) hholds
  refine ⟨_, run_cons (step_ask h) (run_cons (step_look harrives rfl hroom)
    (run_cons (step_create hholds) rfl)), hstarted, ?_⟩
  intro hfree
  have hasked := @isLocked_setCall p i hfree .arriving rfl
  have hheld := @isLocked_setCall _ i hasked .holding rfl
  exact step_track hstarted (@isLocked_setCall _ i hheld (.started p.tasks.length) rfl)

/-- While no slot is held, a call that is permitted takes one and gets its task started. -/
theorem Reachable.starts (hp : Reachable config p) (hlimit : config.limit ≠ some 0)
    (hnone : p.held = 0) (h : p.phase? i = some .asking) : ∃ q,
    p.run [.ask i true, .look i, .create i none] = some q ∧
    q.phase? i = some (.started p.tasks.length) ∧
    (p.isLocked = false → ∃ r, q.step (.track i) = some r ∧
      r.result? i = some (.ok p.tasks.length)) := by
  have hactive : p.active = 0 := hp.balanced.counted.trans hnone
  apply run_starts h
  rw [Bool.eq_false_iff, ne_eq, isSaturated_iff]
  rintro ⟨limit, hconfig, hfull⟩
  have hzero : limit = 0 := Nat.le_zero.1 (hfull.trans_eq hactive)
  exact hlimit (hp.config_eq ▸ hzero ▸ hconfig)

theorem exists_parked (h : 0 < p.parked) : ∃ i, p.phase? i = some .parked := by
  obtain ⟨c, hc, hparked⟩ := List.countP_pos_iff.1 h
  obtain ⟨i, hi⟩ := List.mem_iff_getElem?.1 hc
  exact ⟨i, Option.map_eq_some_iff.2 ⟨c, hi, isParked_iff.1 hparked⟩⟩

theorem Stepped.of_parked {event : Event} (h : Stepped p event q) (hq : q.phase? i = some .parked) :
    p.phase? i = some .parked ∨ p.config.limit ≠ none := by
  cases h with
  | call given thread nextId =>
    obtain hold | ⟨-, hphase⟩ := of_phase?_append hq
    · exact .inl hold
    · cases hphase
  | park _ _ hlimit => exact .inr (Option.ne_none_iff_exists'.2 ⟨_, hlimit⟩)
  | permit | deny | refuse | acquire | create | fail | track | lock | keep | takeOut | push | dispose
  | wake | leave =>
    obtain ⟨-, hphase⟩ | ⟨-, hold⟩ := of_phase?_setCall (p := p) hq
    · cases hphase
    · exact .inl hold
  | release | exit | lapse | takeHandles | joinNext => exact .inl hq

theorem Reachable.limited (hp : Reachable config p) (h : p.phase? i = some .parked) :
    config.limit ≠ none := by
  induction hp generalizing i with
  | start => cases h
  | step event hp hstep ih =>
    obtain hold | hlimit := (step_stepped hstep).of_parked h
    · exact ih hold
    · exact hp.config_eq ▸ hlimit

/-- To a call that is parked while no slot is held a notification is on its way. -/
theorem Reachable.awakens (hp : Reachable config p) (hlimit : config.limit ≠ some 0)
    (hnone : p.held = 0) (hparked : 0 < p.parked) : 0 < p.notified + p.notices := by
  have hactive : p.active = 0 := hp.balanced.counted.trans hnone
  obtain ⟨i, hi⟩ := exists_parked hparked
  obtain ⟨limit, hconfig⟩ := Option.ne_none_iff_exists'.1 (hp.limited hi)
  have hserved := hp.served limit (hp.config_eq ▸ hconfig) hparked
  have hpos : limit ≠ 0 := by
    rintro rfl
    exact hlimit hconfig
  omega

theorem Reachable.admits (hp : Reachable config p) (hlimit : config.limit ≠ some 0) : p.Admits where
  waits i q h hparked := hp.held_pos hlimit h (by simp [hparked])
  refuses i q limit h hrefused := hp.held_pos hlimit h (by simp [result?_eq_some_iff.1 hrefused])
  starts hnone i hasking := hp.starts hlimit hnone hasking
  awakens := hp.awakens hlimit

/-- At a limit of zero no slot is ever held, and no task started. -/
theorem Reachable.nothing_starts (hp : Reachable config p) (hlimit : config.limit = some 0) :
    p.held = 0 ∧ p.tasks = [] := by
  have hnone {p : Pool} (hp : Reachable config p) : p.held = 0 := by
    rw [← hp.balanced.counted]
    exact Nat.le_zero.1 (hp.balanced.bounded 0 (hp.config_eq ▸ hlimit))
  refine ⟨hnone hp, ?_⟩
  induction hp with
  | start => rfl
  | step event hp h ih =>
    obtain htasks | ⟨i, hholds⟩ := (step_stepped h).tasks_nil ih
    · exact htasks
    · have hheld := held_without hholds
      rw [hnone hp] at hheld
      cases hheld

def withCaller (config : Config) : Pool :=
  { ofConfig config with calls := [⟨"caller", .arriving⟩] }

theorem reachable_withCaller (config : Config) : Reachable config (withCaller config) :=
  Reachable.start.step (.call (some "caller")) rfl |>.step (.ask 0 true) rfl

theorem not_admits_withCaller (hlimit : config.limit = some 0) : ¬ (withCaller config).Admits := by
  intro hadmits
  have hnone : ¬ 0 < (withCaller config).held := Nat.lt_irrefl 0
  obtain ⟨q, hlook⟩ : ∃ q, (withCaller config).step (.look 0) = some q := ⟨_, rfl⟩
  cases step_stepped hlook with
  | refuse h => exact hnone (hadmits.refuses 0 _ _ hlook (result?_eq_some_iff.2 (phase?_setCall_self h)))
  | park h => exact hnone (hadmits.waits 0 _ hlook (phase?_setCall_self h))
  | acquire _ _ hroom => exact Nat.lt_irrefl 0 (hroom 0 hlimit)

/-- Nobody waits or is refused while no slot is held, and nobody who waits is forgotten, exactly if the limit
is not zero. At a limit of zero no task is ever started, however long a call waits. -/
theorem admits_throughout_iff (config : Config) :
    ((∀ p, Reachable config p → p.Admits) ↔ config.limit ≠ some 0) ∧
    (config.limit = some 0 → ∀ p, Reachable config p → p.held = 0 ∧ p.tasks = []) := by
  refine ⟨⟨?_, ?_⟩, ?_⟩
  · intro hadmits hlimit
    exact not_admits_withCaller hlimit (hadmits _ (reachable_withCaller config))
  · intro hlimit p hp
    exact hp.admits hlimit
  · intro hlimit p hp
    exact hp.nothing_starts hlimit

/-- The only task has ended while a call was parked, which is about to be notified. -/
theorem admits_throughout_iff_one_slot : ∃ p : Pool, Reachable (.bounded 1 .block) p ∧ p.held = 0 ∧
    p.parked = 1 ∧ p.Admits ∧ 0 < p.notified + p.notices := by
  have hstart : Reachable (.bounded 1 .block) _ := .start
  have hfirst := hstart.step (.call none) rfl |>.step (.ask 0 true) rfl |>.step (.look 0) rfl
    |>.step (.create 0 none) rfl
  have hwaiting := hfirst.step (.call none) rfl |>.step (.ask 1 true) rfl |>.step (.look 1) rfl
  have hended := hwaiting.step (.release 0) rfl
  have hadmits := (admits_throughout_iff (.bounded 1 .block)).1.2 (by decide) _ hended
  exact ⟨_, hended, rfl, rfl, hadmits, hadmits.awakens rfl Nat.one_pos⟩

/-- A setting can make the limit zero. Then a call parks although nobody holds a slot, or is refused one. -/
theorem zero_limit_parks_and_refuses :
    Config.ofSettings (Settings.empty.withValue
      (.table [("goroutines", .table [("max", .unsigned 0)])])) = .ok (.bounded 0 .block) ∧
    (∃ p q : Pool, Reachable (.bounded 0 .block) p ∧ p.held = 0 ∧ p.step (.look 0) = some q ∧
      q.phase? 0 = some .parked) ∧
    ∃ p q : Pool, Reachable (.bounded 0 .reject) p ∧ p.held = 0 ∧ p.step (.look 0) = some q ∧
      q.result? 0 = some (.error (.saturated 0)) :=
  ⟨by decide +kernel, ⟨_, _, reachable_withCaller _, rfl, rfl, rfl⟩,
    ⟨_, _, reachable_withCaller _, rfl, rfl, rfl⟩⟩

end Relay.Spawn.Pool
