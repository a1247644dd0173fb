import Mathlib.Data.List.Perm.Basic
import Relay.Proofs.Spawn.Reaping
import Relay.Proofs.Spawn.Steps

namespace Relay.Spawn

def CallPhase.holdsSlot : CallPhase → Bool
  | .holding => true
  | _ => false

def TaskPhase.holdsSlot : TaskPhase → Bool
  | .running => true
  | _ => false

def Call.holdsSlot (c : Call) : Bool := c.phase.holdsSlot

/-- A slot is given back by a call whose thread cannot be created, and by a task that ends. -/
def Event.freesSlot : Event → Bool
  | .create _ (some _) | .release _ => true
  | _ => false

namespace Pool

/-- The slots held by calls that took one and have no thread yet, and by tasks that have not ended. -/
def held (p : Pool) : Nat := p.calls.countP Call.holdsSlot + p.tasks.countP TaskPhase.holdsSlot

/-- The pool as it would be without a call. -/
def without (p : Pool) (i : Nat) : Pool := { p with calls := p.calls.eraseIdx i }

def handles (p : Pool) : List Nat := p.tracked ++ p.joining.flatten ++ p.joined

variable {config : Config} {p q : Pool} {i j task limit : Nat} {event : Event}
  {phase new : CallPhase} {result : Except Error Nat}

theorem held_setCall (h : p.phase? i = some phase) :
    (p.setCall i new).held + phase.holdsSlot.toNat = p.held + new.holdsSlot.toNat := by
  obtain ⟨c, hc, rfl⟩ := Option.map_eq_some_iff.1 h
  have hcount : (p.setCall i new).calls.countP Call.holdsSlot + c.phase.holdsSlot.toNat =
      p.calls.countP Call.holdsSlot + new.holdsSlot.toNat := countP_modify hc
  have htasks : (p.setCall i new).tasks = p.tasks := rfl
  rw [held, held, htasks]
  omega

theorem held_setTask {old next : TaskPhase} (h : p.tasks[task]? = some old) :
    (p.setTask task next).held + old.holdsSlot.toNat = p.held + next.holdsSlot.toNat := by
  have hcount : (p.setTask task next).tasks.countP TaskPhase.holdsSlot + old.holdsSlot.toNat =
      p.tasks.countP TaskPhase.holdsSlot + next.holdsSlot.toNat := by
    rw [setTask, List.set_eq_modify]
    exact countP_modify h
  have hcalls : (p.setTask task next).calls = p.calls := rfl
  rw [held, held, hcalls]
  omega

theorem held_fail (h : p.phase? i = some .holding) :
    (p.setCall i (.done result)).held + 1 = p.held :=
  held_setCall h

theorem held_release (h : p.tasks[task]? = some .running) :
    (p.setTask task .leaving).held + 1 = p.held :=
  held_setTask h

theorem held_without (h : p.phase? i = some phase) :
    (p.without i).held + phase.holdsSlot.toNat = p.held := by
  obtain ⟨c, hc, rfl⟩ := Option.map_eq_some_iff.1 h
  obtain ⟨hlt, rfl⟩ := List.getElem?_eq_some_iff.1 hc
  have hcount : p.calls.countP Call.holdsSlot =
      (p.without i).calls.countP Call.holdsSlot + p.calls[i].phase.holdsSlot.toNat := by
    rw [← (List.getElem_cons_eraseIdx_perm hlt).countP_eq, List.countP_cons]
    cases hheld : p.calls[i].phase.holdsSlot <;> simp [Call.holdsSlot, hheld, without]
  have htasks : (p.without i).tasks = p.tasks := rfl
  rw [held, held, htasks]
  omega

theorem result?_eq_some_iff : p.result? i = some result ↔ p.phase? i = some (.done result) := by
  unfold result?
  split
  · rename_i heq
    simp [heq]
  · rename_i hnot
    simp only [reduceCtorEq, false_iff]
    exact hnot result

theorem done_setCall (hdone : p.phase? i = some (.done result)) (h : p.phase? j = some phase)
    (hphase : ∀ result, phase ≠ .done result) : (p.setCall j new).phase? i = some (.done result) := by
  rw [phase?_setCall, hdone, Option.map_some]
  by_cases hij : j = i
  · subst hij
    rw [h] at hdone
    cases hdone
    exact (hphase result rfl).elim
  · rw [if_neg hij]

theorem not_done_of_mayLook (h : phase.mayLook = true) : ∀ result, phase ≠ .done result := by
  rintro result rfl
  cases h

theorem Stepped.done (h : Stepped p event q) (hdone : p.phase? i = some (.done result)) :
    q.phase? i = some (.done result) := by
  cases h with
  | call given thread nextId => exact phase?_append hdone
  | permit h => exact done_setCall hdone h nofun
  | deny h => exact done_setCall hdone h nofun
  | refuse h hlook => exact done_setCall hdone h (not_done_of_mayLook hlook)
  | park h hlook => exact done_setCall hdone h (not_done_of_mayLook hlook)
  | acquire h hlook => exact done_setCall hdone h (not_done_of_mayLook hlook)
  | create h => exact done_setCall hdone h nofun
  | fail cause h => exact done_setCall hdone h nofun
  | track h => exact done_setCall hdone h nofun
  | lock h => exact done_setCall hdone h nofun
  | keep h => exact done_setCall hdone h nofun
  | takeOut h => exact done_setCall hdone h nofun
  | push h => exact done_setCall hdone h nofun
  | dispose h => exact done_setCall hdone h nofun
  | wake hdue h => exact done_setCall hdone h nofun
  | leave h => exact done_setCall hdone h nofun
  | release | exit | lapse | takeHandles | joinNext => exact hdone

structure Balanced (p : Pool) : Prop where
  counted : p.active = p.held
  bounded : ∀ limit, p.config.limit = some limit → p.active ≤ limit
  owned : ∀ task ∈ p.handles, ∃ i, p.phase? i = some (.done (.ok task))
  grasped : ∀ i started place task, p.phase? i = some (.disposing started place task) →
    ∃ j, p.phase? j = some (.done (.ok task))

theorem holdsSlot_of_mayLook (h : phase.mayLook = true) : phase.holdsSlot = false := by
  cases phase with
  | holding => cases h
  | _ => rfl

theorem held_setCall_of_not_holds (h : p.phase? i = some phase) (hold : phase.holdsSlot = false)
    (hnew : new.holdsSlot = false) : (p.setCall i new).held = p.held := by
  have hheld : (p.setCall i new).held + phase.holdsSlot.toNat = p.held + new.holdsSlot.toNat :=
    held_setCall h
  rw [hold, hnew] at hheld
  exact hheld

/-- The count and the holders change together. -/
theorem Stepped.counted (h : Stepped p event q) (hp : p.active = p.held) : q.active = q.held := by
  cases h with
  | call given thread nextId =>
    simp only [held, List.countP_append, List.countP_singleton]
    exact hp
  | permit h => exact hp.trans (held_setCall_of_not_holds h rfl rfl).symm
  | deny h => exact hp.trans (held_setCall_of_not_holds h rfl rfl).symm
  | refuse h hlook =>
    exact hp.trans (held_setCall_of_not_holds h (holdsSlot_of_mayLook hlook) rfl).symm
  | park h hlook =>
    exact hp.trans (held_setCall_of_not_holds h (holdsSlot_of_mayLook hlook) rfl).symm
  | @acquire i phase h hlook =>
    have hheld : (p.setCall i .holding).held + phase.holdsSlot.toNat = p.held + 1 := held_setCall h
    rw [holdsSlot_of_mayLook hlook] at hheld
    change p.active + 1 = (p.setCall i .holding).held
    rw [hp]
    exact hheld.symm
  | @create i h =>
    have hheld : (p.setCall i (.started p.tasks.length)).held + 1 = p.held := held_setCall h
    have hstarted : Pool.held { p.setCall i (.started p.tasks.length) with
        tasks := p.tasks ++ [.running] } = (p.setCall i (.started p.tasks.length)).held + 1 := by
      simp only [held, List.countP_append, List.countP_singleton, setCall]
      rfl
    rw [hstarted]
    exact hp.trans hheld.symm
  | @fail i cause h =>
    have hheld : (p.setCall i (.done (.error (.noThread cause)))).held + 1 = p.held := held_fail h
    change p.active - 1 = (p.setCall i _).held
    rw [hp, ← hheld, Nat.add_sub_cancel]
  | track h => exact hp.trans (held_setCall_of_not_holds h rfl rfl).symm
  | lock h => exact hp.trans (held_setCall_of_not_holds h rfl rfl).symm
  | keep h => exact hp.trans (held_setCall_of_not_holds h rfl rfl).symm
  | takeOut h => exact hp.trans (held_setCall_of_not_holds h rfl rfl).symm
  | push h => exact hp.trans (held_setCall_of_not_holds h rfl rfl).symm
  | dispose h => exact hp.trans (held_setCall_of_not_holds h rfl rfl).symm
  | @release task h =>
    have hheld := held_release h
    change p.active - 1 = (p.setTask task .leaving).held
    rw [hp, ← hheld, Nat.add_sub_cancel]
  | @exit task h =>
    have hheld : (p.setTask task .finished).held + 0 = p.held + 0 := held_setTask h
    exact hp.trans hheld.symm
  | wake hdue h => exact hp.trans (held_setCall_of_not_holds (p := p) h rfl rfl).symm
  | leave h => exact hp.trans (held_setCall_of_not_holds h rfl rfl).symm
  | lapse | takeHandles | joinNext => exact hp

theorem Stepped.bounded (h : Stepped p event q)
    (hp : ∀ limit, p.config.limit = some limit → p.active ≤ limit) :
    ∀ limit, q.config.limit = some limit → q.active ≤ limit := by
  intro limit hlimit
  rw [h.config_eq] at hlimit
  cases h with
  | acquire _ _ hroom => exact hroom limit hlimit
  | fail | release => exact (Nat.sub_le _ _).trans (hp limit hlimit)
  | _ => exact hp limit hlimit

theorem phase?_setCall_self (h : p.phase? i = some phase) : (p.setCall i new).phase? i = some new := by
  rw [phase?_setCall, h, Option.map_some, if_pos rfl]

theorem Stepped.handles (h : Stepped p event q) (htask : task ∈ q.handles) :
    task ∈ p.handles ∨ (∃ i, q.phase? i = some (.done (.ok task))) ∨
    ∃ i started place, p.phase? i = some (.disposing started place task) := by
  cases h with
  | @track i started h =>
    have hreaped := @reap_perm _ p.isFinished p.tracked
    simp only [Pool.handles, List.mem_append, List.mem_singleton] at htask ⊢
    obtain ((hkept | rfl) | hjoining) | hjoined | hreap := htask
    · exact .inl (.inl (.inl (mem_reap_kept.1 hkept).1))
    · exact .inr (.inl ⟨i, phase?_setCall_self h⟩)
    · exact .inl (.inl (.inr hjoining))
    · exact .inl (.inr hjoined)
    · exact .inl (.inl (.inl (List.mem_filter.1 (hreaped.1.mem_iff.1 hreap)).1))
  | takeOut h hat =>
    left
    simp only [Pool.handles, List.mem_append] at htask ⊢
    obtain (htracked | hjoining) | hjoined := htask
    · have hperm := swapRemove_perm hat
      exact .inl (.inl (hperm.mem_iff.1 (List.mem_cons_of_mem _ htracked)))
    · exact .inl (.inr hjoining)
    · exact .inr hjoined
  | @push i started place h =>
    simp only [Pool.handles, List.mem_append, List.mem_singleton] at htask ⊢
    obtain ((htracked | rfl) | hjoining) | hjoined := htask
    · exact .inl (.inl (.inl htracked))
    · exact .inr (.inl ⟨i, phase?_setCall_self h⟩)
    · exact .inl (.inl (.inr hjoining))
    · exact .inl (.inr hjoined)
  | dispose h =>
    simp only [Pool.handles, List.mem_append, List.mem_singleton] at htask ⊢
    obtain (htracked | hjoining) | hjoined | rfl := htask
    · exact .inl (.inl (.inl htracked))
    · exact .inl (.inl (.inr hjoining))
    · exact .inl (.inr hjoined)
    · exact .inr (.inr ⟨_, _, _, h⟩)
  | takeHandles =>
    left
    simpa [Pool.handles, or_comm, or_assoc] using htask
  | @joinNext joiner next rest h =>
    left
    have hmem := List.mem_of_getElem? h
    simp only [Pool.handles, List.mem_append, List.mem_flatten, List.mem_singleton] at htask ⊢
    obtain (htracked | ⟨held, hheld, hin⟩) | hjoined | rfl := htask
    · exact .inl (.inl htracked)
    · obtain hold | rfl := List.mem_or_eq_of_mem_set hheld
      · exact .inl (.inr ⟨held, hold, hin⟩)
      · exact .inl (.inr ⟨_, hmem, List.mem_cons_of_mem next hin⟩)
    · exact .inr hjoined
    · exact .inl (.inr ⟨_, hmem, List.mem_cons_self⟩)
  | _ => exact .inl htask

theorem Stepped.disposing {started place : Nat} (h : Stepped p event q)
    (hq : q.phase? j = some (.disposing started place task)) :
    p.phase? j = some (.disposing started place task) ∨ task ∈ p.tracked := by
  cases h with
  | call given thread nextId =>
    obtain hold | ⟨-, hphase⟩ := of_phase?_append hq
    · exact .inl hold
    · cases hphase
  | @takeOut i _ _ handle h hat =>
    obtain ⟨-, hphase⟩ | ⟨-, hold⟩ := of_phase?_setCall (p := p) hq
    · cases hphase
      exact .inr (List.mem_of_getElem? hat)
    · exact .inl hold
  | permit | deny | refuse | park | acquire | create | fail | track | lock | keep | push | dispose | wake
  | leave =>
    obtain ⟨-, hphase⟩ | ⟨-, hold⟩ := of_phase?_setCall (p := p) hq
    · cases hphase
    · exact .inl hold
  | release | exit | lapse | takeHandles | joinNext => exact .inl hq

theorem Balanced.step (hp : Balanced p) (h : Stepped p event q) : Balanced q := by
  constructor
  · exact h.counted hp.counted
  · exact h.bounded hp.bounded
  · intro task htask
    obtain hold | hnew | ⟨i, started, place, hgrasped⟩ := h.handles htask
    · obtain ⟨i, hi⟩ := hp.owned task hold
      exact ⟨i, h.done hi⟩
    · exact hnew
    · obtain ⟨j, hj⟩ := hp.grasped i started place task hgrasped
      exact ⟨j, h.done hj⟩
  · intro i started place task hgrasped
    obtain hold | htracked := h.disposing hgrasped
    · obtain ⟨j, hj⟩ := hp.grasped i started place task hold
      exact ⟨j, h.done hj⟩
    · have hhandle : task ∈ p.handles := List.mem_append_left _ (List.mem_append_left _ htracked)
      obtain ⟨j, hj⟩ := hp.owned task hhandle
      exact ⟨j, h.done hj⟩

theorem Reachable.balanced (hp : Reachable config p) : Balanced p := by
  apply hp.induction
  · exact ⟨rfl, fun _ _ => Nat.zero_le _, nofun, nofun⟩
  · intro p q event hp h
    exact hp.step h

theorem Stepped.active_pos (h : Stepped p event q) (hp : p.active = p.held)
    (hfrees : event.freesSlot = true) : p.active = q.active + 1 := by
  cases h with
  | @fail i cause h =>
    have hheld : (p.setCall i (.done (.error (.noThread cause)))).held + 1 = p.held := held_fail h
    change p.active = p.active - 1 + 1
    omega
  | @release task h =>
    have hheld := held_release h
    change p.active = p.active - 1 + 1
    omega
  | _ => cases hfrees

theorem setCall_result? (hnone : p.result? i = none)
    (hsome : (p.setCall j new).result? i = some result) : j = i ∧ new = .done result := by
  rw [result?_eq_some_iff, phase?_setCall] at hsome
  obtain ⟨old, hold, hnew⟩ := Option.map_eq_some_iff.1 hsome
  by_cases hij : j = i
  · exact ⟨hij, by rwa [if_pos hij] at hnew⟩
  · rw [if_neg hij] at hnew
    rw [hnew, ← result?_eq_some_iff, hnone] at hold
    cases hold

/-- A call that fails gives back what it had taken and touches no task and no handle. It is refused for
want of a slot only at a limit that is reached. -/
theorem Stepped.failed {e : Error} (h : Stepped p event q) (hp : p.active = p.held)
    (hnone : p.result? i = none) (hsome : q.result? i = some (.error e)) :
    q.active = (p.without i).held ∧ q.tasks = p.tasks ∧ q.handles = p.handles ∧
    ∀ limit, e = .saturated limit →
      p.config.saturation = .reject ∧ p.config.limit = some limit ∧ limit ≤ p.active := by
  cases h with
  | call given thread nextId =>
    obtain ⟨c, hc, hphase⟩ := Option.map_eq_some_iff.1 (result?_eq_some_iff.1 hsome)
    obtain hc | ⟨-, rfl⟩ := of_getElem?_concat hc
    · have hbefore : p.result? i = some (.error e) :=
        result?_eq_some_iff.2 (Option.map_eq_some_iff.2 ⟨c, hc, hphase⟩)
      rw [hnone] at hbefore
      cases hbefore
    · cases hphase
  | deny h =>
    obtain ⟨rfl, hresult⟩ := setCall_result? hnone hsome
    cases hresult
    have hwithout := held_without h
    exact ⟨hp.trans hwithout.symm, rfl, rfl, nofun⟩
  | refuse h hlook hlimit hfull hpolicy =>
    obtain ⟨rfl, hresult⟩ := setCall_result? hnone hsome
    cases hresult
    have hwithout := held_without h
    rw [holdsSlot_of_mayLook hlook] at hwithout
    refine ⟨hp.trans hwithout.symm, rfl, rfl, ?_⟩
    rintro limit ⟨⟩
    exact ⟨hpolicy, hlimit, hfull⟩
  | fail cause h =>
    obtain ⟨rfl, hresult⟩ := setCall_result? hnone hsome
    cases hresult
    have hwithout : (p.without _).held + 1 = p.held := held_without h
    refine ⟨?_, rfl, rfl, nofun⟩
    change p.active - 1 = _
    rw [hp, ← hwithout, Nat.add_sub_cancel]
  | permit | park | acquire | create | track | lock | keep | takeOut | push | dispose | wake | leave =>
    obtain ⟨-, hresult⟩ := setCall_result? hnone hsome
    cases hresult
  | release | exit | lapse | takeHandles | joinNext =>
    have hbefore : p.result? i = some (.error e) := hsome
    rw [hnone] at hbefore
    cases hbefore

/-- The count of slots is the number of those who hold one, and stays within the limit. Nothing is given
back that was not taken. A call that failed holds nothing: the count is what it would be without the call,
and every handle is that of another one. When it fails, only its own slot is given back, and only a limit
that is reached refuses it one. -/
theorem slots_accounted (hp : Reachable config p) :
    p.active = p.held ∧ (∀ limit, config.limit = some limit → p.active ≤ limit) ∧
    (∀ event q, p.step event = some q → event.freesSlot = true → p.active = q.active + 1) ∧
    (∀ i e, p.result? i = some (.error e) → p.active = (p.without i).held ∧
      ∀ task ∈ p.handles, ∃ j, j ≠ i ∧ p.result? j = some (.ok task)) ∧
    ∀ event q i e, p.step event = some q → p.result? i = none → q.result? i = some (.error e) →
      q.active = (p.without i).held ∧ q.tasks = p.tasks ∧ q.handles = p.handles ∧
      ∀ limit, e = .saturated limit →
        config.saturation = .reject ∧ config.limit = some limit ∧ limit ≤ p.active := by
  have hbalanced := hp.balanced
  have hconfig := hp.config_eq
  refine ⟨hbalanced.counted, ?_, ?_, ?_, ?_⟩
  · rw [← hconfig]
    exact hbalanced.bounded
  · intro event q h hfrees
    exact (step_stepped h).active_pos hbalanced.counted hfrees
  · intro i e hfailed
    have hwithout := held_without (result?_eq_some_iff.1 hfailed)
    refine ⟨hbalanced.counted.trans hwithout.symm, fun task htask => ?_⟩
    obtain ⟨j, hj⟩ := hbalanced.owned task htask
    have hreturned := result?_eq_some_iff.2 hj
    refine ⟨j, ?_, hreturned⟩
    rintro rfl
    rw [hfailed] at hreturned
    cases hreturned
  · intro event q i e h hnone hsome
    rw [← hconfig]
    exact (step_stepped h).failed hbalanced.counted hnone hsome

/-- With a limit of one, the first call takes the slot. The second is refused it, the first fails to create
its thread, and the third is not permitted to ask. -/
theorem slots_accounted_three_failures : ∃ p q r : Pool,
    Reachable (.bounded 1 .reject) p ∧ Reachable (.bounded 1 .reject) r ∧
    (p.active = 1 ∧ p.held = 1) ∧ p.step (.look 1) = some q ∧
    (q.active = (p.without 1).held ∧ 1 ≤ p.active) ∧
    r.result? 0 = some (.error (.noThread "out of threads")) ∧
    r.result? 2 = some (.error .notPermitted) ∧ r.active = (r.without 0).held ∧
    r.active = (r.without 2).held := by
  have hstart : Reachable (.bounded 1 .reject) _ := .start
  have hcalled := hstart.step (.call none) rfl |>.step (.call (some "b")) rfl
    |>.step (.call none) rfl
  have hasked := hcalled.step (.ask 0 true) rfl |>.step (.ask 1 true) rfl
  have hp := hasked.step (.look 0) rfl
  have hr := hp.step (.look 1) rfl |>.step (.create 0 (some "out of threads")) rfl
    |>.step (.ask 2 false) rfl
  obtain ⟨hcounted, hlimit, -, -, hfails⟩ := slots_accounted hp
  obtain ⟨-, -, -, hfailed, -⟩ := slots_accounted hr
  obtain ⟨hactive, -, -, hfull⟩ := hfails (.look 1) _ 1 (.saturated 1) rfl rfl rfl
  exact ⟨_, _, _, hp, hr, ⟨rfl, hcounted.symm⟩, rfl, ⟨hactive, (hfull 1 rfl).2.2⟩, rfl, rfl,
    (hfailed 0 _ rfl).1, (hfailed 2 _ rfl).1⟩

end Pool

end Relay.Spawn
