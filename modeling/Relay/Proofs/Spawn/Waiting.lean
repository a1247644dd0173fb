import Relay.Proofs.Spawn.Slots

namespace Relay.Spawn

def CallPhase.isNotified : CallPhase → Bool
  | .notified => true
  | _ => false

namespace Pool

def callsAt (p : Pool) (at? : CallPhase → Bool) : Nat := p.calls.countP fun c => at? c.phase

def parked (p : Pool) : Nat := p.callsAt CallPhase.isParked

def notified (p : Pool) : Nat := p.callsAt CallPhase.isNotified

/-- Every free slot is spoken for while a call is parked. -/
def Served (p : Pool) : Prop :=
  ∀ limit, p.config.limit = some limit → 0 < p.parked → limit ≤ p.active + (p.notified + p.notices)

variable {config : Config} {p q : Pool} {i : Nat} {event : Event} {phase new : CallPhase}

theorem callsAt_setCall (at? : CallPhase → Bool) (h : p.phase? i = some phase) :
    (p.setCall i new).callsAt at? + (at? phase).toNat = p.callsAt at? + (at? new).toNat := by
  obtain ⟨c, hc, rfl⟩ := Option.map_eq_some_iff.1 h
  exact countP_modify hc

theorem parked_setCall_le (h : p.phase? i = some phase) (hnew : new.isParked = false) :
    (p.setCall i new).parked ≤ p.parked := by
  have hcount : (p.setCall i new).parked + phase.isParked.toNat = p.parked + new.isParked.toNat :=
    callsAt_setCall CallPhase.isParked h
  rw [hnew] at hcount
  exact Nat.le.intro hcount

theorem notified_le_setCall (h : p.phase? i = some phase) (hold : phase.isNotified = false) :
    p.notified ≤ (p.setCall i new).notified := by
  have hcount : (p.setCall i new).notified + phase.isNotified.toNat =
      p.notified + new.isNotified.toNat := callsAt_setCall CallPhase.isNotified h
  rw [hold] at hcount
  exact Nat.le.intro hcount.symm

theorem Served.setCall (hp : Served p) (h : p.phase? i = some phase) (hold : phase.isNotified = false)
    (hnew : new.isParked = false) : Served (p.setCall i new) := by
  intro limit hlimit hparked
  have hbefore := hp limit hlimit (hparked.trans_le (parked_setCall_le h hnew))
  have hnotified : p.notified ≤ (p.setCall i new).notified := notified_le_setCall h hold
  have hactive : (p.setCall i new).active = p.active := rfl
  have hnotices : (p.setCall i new).notices = p.notices := rfl
  omega

theorem Served.of_full {limit : Nat} (hlimit : p.config.limit = some limit) (hfull : limit ≤ p.active) :
    Served p := by
  intro other hother _
  rw [hlimit] at hother
  cases hother
  exact hfull.trans (Nat.le_add_right _ _)

/-- Whoever takes a slot uses up one notification at most. -/
theorem Served.acquire (hp : Served p) (h : p.phase? i = some phase) :
    Served { p.setCall i .holding with active := p.active + 1 } := by
  intro limit hlimit hparked
  have hbefore := hp limit hlimit (hparked.trans_le (parked_setCall_le h rfl))
  have hcount : (p.setCall i .holding).notified + phase.isNotified.toNat = p.notified + 0 :=
    callsAt_setCall CallPhase.isNotified h
  have hone := Bool.toNat_le phase.isNotified
  change limit ≤ p.active + 1 + ((p.setCall i .holding).notified + p.notices)
  omega

theorem Served.freeSlot (hp : Served p) : Served p.freeSlot := by
  intro limit hlimit hparked
  have hbefore := hp limit hlimit hparked
  change limit ≤ p.active - 1 + (p.notified + (p.notices + 1))
  omega

theorem Served.wake {notices : Nat} (hp : Served p) (hdue : p.notices = notices + 1)
    (h : p.phase? i = some .parked) : Served ({ p with notices }.setCall i .notified) := by
  intro limit hlimit hparked
  have hstill : (p.setCall i .notified).parked ≤ p.parked := parked_setCall_le h rfl
  have hbefore := hp limit hlimit (hparked.trans_le hstill)
  have hcount : (p.setCall i .notified).notified + 0 = p.notified + 1 := callsAt_setCall CallPhase.isNotified h
  change limit ≤ p.active + ((p.setCall i .notified).notified + notices)
  omega

theorem parked_eq_zero (h : ∀ c ∈ p.calls, c.phase.isParked = false) : p.parked = 0 := by
  apply List.countP_eq_zero.2
  intro c hc
  rw [h c hc]
  exact Bool.false_ne_true

theorem Served.call (hp : Served p) (thread : String) (nextId : Nat) :
    Served { p with calls := p.calls ++ [⟨thread, .asking⟩], nextId } := by
  have hsame (at? : CallPhase → Bool) (hasking : at? .asking = false) :
      callsAt { p with calls := p.calls ++ [⟨thread, .asking⟩], nextId } at? = p.callsAt at? := by
    simp only [callsAt, List.countP_append, List.countP_singleton, hasking]
    rfl
  intro limit hlimit hparked
  rw [parked, hsame _ rfl] at hparked
  rw [notified, hsame _ rfl]
  exact hp limit hlimit hparked

theorem Stepped.served (h : Stepped p event q) (hp : Served p) : Served q := by
  cases h with
  | call given thread nextId => exact hp.call thread nextId
  | permit h => exact hp.setCall h rfl rfl
  | deny h => exact hp.setCall h rfl rfl
  | refuse _ _ hlimit hfull => exact .of_full hlimit hfull
  | park _ _ hlimit hfull => exact .of_full hlimit hfull
  | acquire h => exact hp.acquire h
  | create h => exact hp.setCall h rfl rfl
  | fail cause h => exact (hp.setCall h rfl rfl).freeSlot
  | track h => exact hp.setCall h rfl rfl
  | lock h => exact hp.setCall h rfl rfl
  | keep h => exact hp.setCall h rfl rfl
  | takeOut h => exact hp.setCall h rfl rfl
  | push h => exact hp.setCall h rfl rfl
  | dispose h => exact hp.setCall h rfl rfl
  | release => exact hp.freeSlot
  | wake hdue h => exact hp.wake hdue h
  | lapse _ hnobody =>
    intro limit _ hparked
    have hnone := parked_eq_zero hnobody
    exact (hparked.ne' hnone).elim
  | leave h => exact hp.setCall h rfl rfl
  | exit | takeHandles | joinNext => exact hp

theorem Reachable.served (hp : Reachable config p) : Served p := by
  apply hp.induction
  · intro limit _ hparked
    exact (Nat.not_lt_zero 0 hparked).elim
  · intro p q event hp h
    exact h.served hp

/-- While a call is parked and not notified, no more slots are free than calls are notified and have not
looked yet, or notifications are due. -/
theorem free_slots_spoken_for {limit : Nat} (hp : Reachable config p) (hlimit : config.limit = some limit) :
    p.active ≤ limit ∧ (0 < p.parked → limit - p.active ≤ p.notified + p.notices) := by
  rw [← hp.config_eq] at hlimit
  constructor
  · exact hp.balanced.bounded limit hlimit
  · intro hparked
    have hserved := hp.served limit hlimit hparked
    omega

/-- Two calls are parked behind two tasks. Both tasks end; one call is notified, a further one takes a
slot before it, and the other notification is still due. -/
theorem free_slots_spoken_for_barging : ∃ p q : Pool,
    Reachable (.bounded 2 .block) p ∧ Reachable (.bounded 2 .block) q ∧
    (p.parked = 2 ∧ p.notices = 2 ∧ 2 - p.active = 2 ∧ 2 - p.active ≤ p.notified + p.notices) ∧
    (q.parked = 1 ∧ q.notified = 1 ∧ q.notices = 1 ∧ 2 - q.active ≤ q.notified + q.notices) := by
  have hstart : Reachable (.bounded 2 .block) _ := .start
  have hfirst := hstart.step (.call none) rfl |>.step (.ask 0 true) rfl |>.step (.look 0) rfl
    |>.step (.create 0 none) rfl
  have hsecond := hfirst.step (.call none) rfl |>.step (.ask 1 true) rfl |>.step (.look 1) rfl
    |>.step (.create 1 none) rfl
  have hwaiting := hsecond.step (.call none) rfl |>.step (.ask 2 true) rfl |>.step (.look 2) rfl
    |>.step (.call none) rfl |>.step (.ask 3 true) rfl |>.step (.look 3) rfl
  have hp := hwaiting.step (.release 0) rfl |>.step (.release 1) rfl
  have hq := hp.step (.notice (some 3)) rfl |>.step (.call none) rfl |>.step (.ask 4 true) rfl
    |>.step (.look 4) rfl
  have hspoken := (free_slots_spoken_for hp rfl).2 (by decide)
  have hbarged := (free_slots_spoken_for hq rfl).2 (by decide)
  exact ⟨_, _, hp, hq, ⟨rfl, rfl, rfl, hspoken⟩, ⟨rfl, rfl, rfl, hbarged⟩⟩

end Pool

end Relay.Spawn
