import Relay.Net.Listener
import Relay.Proofs.Spawn.Handles

namespace Relay.Listener

open Spawn (CallPhase)
open Spawn.Pool (Stepped Vacated)

inductive Reachable : Listener → Prop
  | start : Reachable .start
  | step {l m : Listener} (event : Event) : Reachable l → l.step event = some m → Reachable m

def run (l : Listener) : List Event → Option Listener
  | [] => some l
  | event :: events => (l.step event).bind fun m => m.run events

/-- Whether the accepting task is between its look at the token and the next one. -/
def Accepting.isBusy : Accepting → Bool
  | .taking | .spawning _ => true
  | _ => false

inductive Moved (l : Listener) : Event → Listener → Prop
  | finish (h : l.isAccepting = true) (hat : l.accepting = .looking) (hc : l.isCancelled = true) :
    Moved l .look { l with accepting := .ended }
  | goOn (h : l.isAccepting = true) (hat : l.accepting = .looking) (hc : l.isCancelled = false) :
    Moved l .look { l with accepting := .taking }
  | accept {pool : Spawn.Pool} (h : l.isAccepting = true) (hat : l.accepting = .taking)
    (hcall : l.pool.step (.call none) = some pool) :
    Moved l (.take .connection) { l with pool, accepting := .spawning l.pool.calls.length }
  | idle (h : l.isAccepting = true) (hat : l.accepting = .taking) :
    Moved l (.take .nothing) { l with accepting := .looking }
  | fail (h : l.isAccepting = true) (hat : l.accepting = .taking) :
    Moved l (.take .failure) { l with accepting := .ended }
  | spawned {call : Nat} {result : Except Spawn.Error Nat} (hat : l.accepting = .spawning call)
    (hdone : l.pool.phase? call = some (.done result)) :
    Moved l .spawned { l with accepting := .looking }
  | pool {event : Spawn.Event} {pool : Spawn.Pool} (hadmits : l.admits event = true)
    (h : l.pool.step event = some pool) : Moved l (.pool event) { l with pool }
  | cancel (hstarted : l.isStarted = true) (hs : l.stopping = .running) :
    Moved l .cancel { l with stopping := .cancelled }
  | first {pool : Spawn.Pool} (hs : l.stopping = .cancelled)
    (h : l.pool.step .takeHandles = some pool) :
    Moved l .takeHandles { l with pool, stopping := .firstPass }
  | second {pool : Spawn.Pool} (hs : l.stopping = .firstPass) (hover : l.passIsOver = true)
    (h : l.pool.step .takeHandles = some pool) :
    Moved l .takeHandles { l with pool, stopping := .secondPass }
  | stop (hs : l.stopping = .secondPass) (hover : l.passIsOver = true) :
    Moved l .endPass { l with stopping := .stopped }

variable {l m : Listener} {event : Event} {p q : Spawn.Pool} {e : Spawn.Event}
  {stopping : Stopping}

theorem take_moved {taken : Taken} (h : l.step (.take taken) = some m) : Moved l (.take taken) m := by
  simp only [step] at h
  split at h
  · rename_i hguard
    obtain ⟨haccepting, hat⟩ := Bool.and_eq_true_iff.1 hguard
    cases taken with
    | connection =>
      obtain ⟨pool, hcall, rfl⟩ := Option.map_eq_some_iff.1 h
      exact .accept haccepting (eq_of_beq hat) hcall
    | nothing =>
      cases h
      exact .idle haccepting (eq_of_beq hat)
    | failure =>
      cases h
      exact .fail haccepting (eq_of_beq hat)
  · cases h

theorem takeHandles_moved (h : l.step .takeHandles = some m) : Moved l .takeHandles m := by
  simp only [step, pass] at h
  split at h
  · rename_i hs
    obtain ⟨pool, htaken, rfl⟩ := Option.map_eq_some_iff.1 h
    exact .first hs htaken
  · rename_i hs
    split at h
    · rename_i hover
      obtain ⟨pool, htaken, rfl⟩ := Option.map_eq_some_iff.1 h
      exact .second hs hover htaken
    · cases h
  · cases h

theorem step_moved (h : l.step event = some m) : Moved l event m := by
  cases event with
  | look =>
    simp only [step] at h
    split at h
    · rename_i hguard
      obtain ⟨haccepting, hat⟩ := Bool.and_eq_true_iff.1 hguard
      cases hc : l.isCancelled with
      | true =>
        rw [hc] at h
        cases h
        exact .finish haccepting (eq_of_beq hat) hc
      | false =>
        rw [hc] at h
        cases h
        exact .goOn haccepting (eq_of_beq hat) hc
    · cases h
  | take taken => exact take_moved h
  | spawned =>
    simp only [step] at h
    split at h
    · rename_i call hat
      split at h
      · rename_i result hdone
        cases h
        exact .spawned hat hdone
      · cases h
    · cases h
  | pool event =>
    simp only [step] at h
    split at h
    · rename_i hadmits
      obtain ⟨pool, hpool, rfl⟩ := Option.map_eq_some_iff.1 h
      exact .pool hadmits hpool
    · cases h
  | cancel =>
    simp only [step] at h
    split at h
    · rename_i hguard
      obtain ⟨hstarted, hs⟩ := Bool.and_eq_true_iff.1 hguard
      cases h
      exact .cancel hstarted (eq_of_beq hs)
    · cases h
  | takeHandles => exact takeHandles_moved h
  | endPass =>
    simp only [step] at h
    split at h
    · rename_i hguard
      obtain ⟨hs, hover⟩ := Bool.and_eq_true_iff.1 hguard
      cases h
      exact .stop (eq_of_beq hs) hover
    · cases h

theorem start_pool : (Spawn.Pool.ofConfig config).step (.call none) = some start.pool := rfl

theorem Moved.pool_reachable (h : Moved l event m) (hl : Spawn.Pool.Reachable config l.pool) :
    Spawn.Pool.Reachable config m.pool := by
  cases h with
  | accept _ _ hcall => exact hl.step _ hcall
  | pool _ h => exact hl.step _ h
  | first _ h => exact hl.step _ h
  | second _ _ h => exact hl.step _ h
  | _ => exact hl

theorem Reachable.pool_reachable (hl : Reachable l) : Spawn.Pool.Reachable config l.pool := by
  induction hl with
  | start => exact Spawn.Pool.Reachable.start.step _ start_pool
  | step event _ h ih => exact (step_moved h).pool_reachable ih

/-- How far the handles of the tasks are handed over at a point of stopping. -/
def Stage (p : Spawn.Pool) : Stopping → Prop
  | .running => p.joining = []
  | .cancelled => (∃ result, p.phase? 0 = some (.done result)) ∧ p.joining = []
  | .firstPass => (∃ result, p.phase? 0 = some (.done result)) ∧ p.joining.length = 1 ∧
    (p.tasks = [] ∨ 0 ∈ p.joining.flatten ++ p.joined)
  | .secondPass => p.Vacated 1 ∧ p.joining.length = 2 ∧ p.tasks[0]? ≠ some .running
  | .stopped => p.Vacated 1 ∧ p.joining[1]? = some [] ∧ p.tasks[0]? ≠ some .running

structure Tended (l : Listener) : Prop where
  alone : ∀ i phase, l.pool.phase? i = some phase →
    phase.isDone = true ∨ i = 0 ∨ l.accepting = .spawning i
  own : ∀ i phase, l.pool.phase? i = some phase → phase.untracked? = some 0 → i = 0
  busy : l.accepting.isBusy = true → l.pool.tasks[0]? = some .running
  staged : Stage l.pool l.stopping

theorem isCall_of_admits (h : l.admits e = true) : e.isCall = false := by
  cases e with
  | call => cases h
  | _ => rfl

theorem ne_takeHandles_of_admits (h : l.admits e = true) : e ≠ .takeHandles := by
  rintro rfl
  cases h

theorem ne_release_of_busy (h : l.admits e = true) (hbusy : l.accepting.isBusy = true) :
    e ≠ .release 0 := by
  rintro rfl
  have hended : l.accepting = .ended := eq_of_beq h
  rw [hended] at hbusy
  cases hbusy

/-- While the accepting task has given its slot back, or there is none yet, no call of its own is under
way. -/
theorem Tended.settled (hl : Tended l) (hdone : ∃ result, l.pool.phase? 0 = some (.done result))
    (hidle : l.pool.tasks[0]? ≠ some .running) {i : Nat} {phase : CallPhase}
    (h : l.pool.phase? i = some phase) : phase.isDone = true := by
  obtain hend | rfl | hspawning := hl.alone i phase h
  · exact hend
  · obtain ⟨result, hdone⟩ := hdone
    rw [h] at hdone
    cases hdone
    rfl
  · have hbusy : l.accepting.isBusy = true := by rw [hspawning]; rfl
    exact (hidle (hl.busy hbusy)).elim

theorem idle_of_vacated {k : Nat} (hp : p.Vacated k) (hidle : p.tasks[0]? ≠ some .running)
    (h : Stepped p e q) : q.tasks[0]? ≠ some .running := by
  intro hrunning
  obtain hold | ⟨i, hholding⟩ := h.of_running hrunning
  · exact hidle hold
  · cases hp.isDone hholding

theorem Tended.stage_pool (hl : Tended l) (hadmits : l.admits e = true)
    (h : Stepped l.pool e q) : Stage q l.stopping := by
  have hstaged := hl.staged
  have hlength := h.joining_length (ne_takeHandles_of_admits hadmits)
  have hstill (hnone : l.pool.joining = []) : q.joining = [] := by
    rw [← List.length_eq_zero_iff, hlength, hnone]
    rfl
  cases hs : l.stopping with
  | running =>
    rw [hs] at hstaged
    exact hstill hstaged
  | cancelled =>
    rw [hs] at hstaged
    obtain ⟨⟨result, hdone⟩, hnone⟩ := hstaged
    exact ⟨⟨result, h.done hdone⟩, hstill hnone⟩
  | firstPass =>
    rw [hs] at hstaged
    obtain ⟨⟨result, hdone⟩, hone, hhanded⟩ := hstaged
    refine ⟨⟨result, h.done hdone⟩, hlength.trans hone, ?_⟩
    obtain hnone | htaken := hhanded
    · obtain hnil | ⟨i, hholding⟩ := h.tasks_nil hnone
      · exact .inl hnil
      · have hidle : l.pool.tasks[0]? ≠ some .running := by simp [hnone]
        cases hl.settled ⟨result, hdone⟩ hidle hholding
    · exact .inr (h.mem_taken htaken)
  | secondPass =>
    rw [hs] at hstaged
    obtain ⟨hvacated, htwo, hidle⟩ := hstaged
    exact ⟨hvacated.step (isCall_of_admits hadmits) h, hlength.trans htwo,
      idle_of_vacated hvacated hidle h⟩
  | stopped =>
    rw [hs] at hstaged
    obtain ⟨hvacated, hover, hidle⟩ := hstaged
    exact ⟨hvacated.step (isCall_of_admits hadmits) h, h.over hover,
      idle_of_vacated hvacated hidle h⟩

theorem Tended.pool (hl : Tended l) (hadmits : l.admits e = true) (h : Stepped l.pool e q) :
    Tended { l with pool := q } := by
  constructor
  · intro i phase hphase
    obtain hold | ⟨old, hold, hunder⟩ := h.phase_cases (isCall_of_admits hadmits) hphase
    · exact hl.alone i phase hold
    · obtain hend | hrest := hl.alone i old hold
      · rw [hunder] at hend
        cases hend
      · exact .inr hrest
  · intro i phase hphase hcarried
    obtain ⟨old, hold, hbefore⟩ | ⟨hholding, hfirst⟩ := h.untracked_cases hphase hcarried
    · exact hl.own i old hold hbefore
    · obtain hend | hi | hspawning := hl.alone i .holding hholding
      · cases hend
      · exact hi
      · have hbusy : l.accepting.isBusy = true := by rw [hspawning]; rfl
        have hlt := (List.getElem?_eq_some_iff.1 (hl.busy hbusy)).1
        omega
  · intro hbusy
    exact h.running (ne_release_of_busy hadmits hbusy) (hl.busy hbusy)
  · exact hl.stage_pool hadmits h

theorem Tended.setAccepting (hl : Tended l) (accepting : Accepting)
    (hdone : ∀ i phase, l.accepting = .spawning i → l.pool.phase? i = some phase → phase.isDone = true)
    (hbusy : accepting.isBusy = true → l.pool.tasks[0]? = some .running) :
    Tended { l with accepting } := by
  refine ⟨?_, hl.own, hbusy, hl.staged⟩
  intro i phase hphase
  obtain hend | rfl | hspawning := hl.alone i phase hphase
  · exact .inl hend
  · exact .inr (.inl rfl)
  · exact .inl (hdone i phase hspawning hphase)

theorem Tended.turn (hl : Tended l) (accepting : Accepting) (hnot : ∀ i, l.accepting ≠ .spawning i)
    (hbusy : accepting.isBusy = true → l.pool.tasks[0]? = some .running) :
    Tended { l with accepting } := by
  apply hl.setAccepting accepting ?_ hbusy
  intro i _ hspawning
  exact (hnot i hspawning).elim

theorem isAccepting_iff : l.isAccepting = true ↔ l.pool.tasks[0]? = some .running := by
  rw [isAccepting, beq_iff_eq]

theorem isStarted_iff : l.isStarted = true ↔ ∃ result, l.pool.phase? 0 = some (.done result) := by
  rw [isStarted]
  split
  · rename_i result hdone
    simp [hdone]
  · rename_i hnot
    simp only [Bool.false_eq_true, false_iff]
    rintro ⟨result, hdone⟩
    exact hnot result hdone

theorem Stage.call (h : Stage p stopping) (hrunning : p.tasks[0]? = some .running)
    (hcall : Stepped p (.call none) q) : Stage q stopping := by
  cases stopping with
  | running =>
    cases hcall
    exact h
  | cancelled =>
    obtain ⟨⟨result, hdone⟩, hnone⟩ := h
    have hstill := hcall.done hdone
    cases hcall
    exact ⟨⟨result, hstill⟩, hnone⟩
  | firstPass =>
    obtain ⟨⟨result, hdone⟩, hone, hhanded⟩ := h
    have hstill := hcall.done hdone
    cases hcall
    exact ⟨⟨result, hstill⟩, hone, hhanded⟩
  | secondPass => exact (h.2.2 hrunning).elim
  | stopped => exact (h.2.2 hrunning).elim

theorem Tended.accept (hl : Tended l) (hat : l.accepting = .taking)
    (hcall : l.pool.step (.call none) = some q) :
    Tended { l with pool := q, accepting := .spawning l.pool.calls.length } := by
  have hbusy : l.pool.tasks[0]? = some .running := hl.busy (by rw [hat]; rfl)
  have hstepped := Spawn.Pool.step_stepped hcall
  have hstaged := hl.staged.call hbusy hstepped
  cases hstepped
  constructor
  · intro i phase hphase
    obtain hold | ⟨rfl, -⟩ := Spawn.Pool.of_phase?_append hphase
    · obtain hend | hi | hspawning := hl.alone i phase hold
      · exact .inl hend
      · exact .inr (.inl hi)
      · rw [hat] at hspawning
        cases hspawning
    · exact .inr (.inr rfl)
  · intro i phase hphase hcarried
    obtain hold | ⟨-, rfl⟩ := Spawn.Pool.of_phase?_append hphase
    · exact hl.own i phase hold hcarried
    · cases hcarried
  · intro _
    exact hbusy
  · exact hstaged

theorem Tended.first (hl : Tended l) (hpool : Spawn.Pool.Reachable config l.pool)
    (hs : l.stopping = .cancelled) (h : Stepped l.pool .takeHandles q) :
    Tended { l with pool := q, stopping := .firstPass } := by
  have hstaged := hl.staged
  rw [hs] at hstaged
  obtain ⟨⟨result, hdone⟩, hnone⟩ := hstaged
  cases h with
  | takeHandles hfree =>
    refine ⟨hl.alone, hl.own, hl.busy, ⟨result, hdone⟩, by simp [hnone], ?_⟩
    obtain htasks | hpos := Nat.eq_zero_or_pos l.pool.tasks.length
    · exact .inl (List.length_eq_zero_iff.1 htasks)
    · right
      have hplaced : 0 ∈ l.pool.places :=
        hpool.conserved.placed.mem_iff.2 (List.mem_range.2 hpos)
      rw [Spawn.Pool.places, Spawn.Pool.inHand_of_not_locked hfree, hnone] at hplaced
      simp only [List.mem_append, List.not_mem_nil, or_false, List.flatten_nil] at hplaced
      obtain (huntracked | htracked) | hjoined := hplaced
      · obtain ⟨i, phase, hphase, hcarried⟩ := Spawn.Pool.mem_untracked.1 huntracked
        cases hl.own i phase hphase hcarried
        rw [hdone] at hphase
        cases hphase
        cases hcarried
      · simp [htracked]
      · simp [hjoined]

theorem joining_of_over {lists : List (List Nat)} {n : Nat} (hlength : lists.length = n + 1)
    (hover : lists.getLast?.any (·.isEmpty) = true) : lists[n]? = some [] := by
  obtain ⟨last, hlast, hempty⟩ := (Option.any_eq_true _ _).1 hover
  rw [List.getLast?_eq_getElem?, hlength, Nat.add_sub_cancel] at hlast
  rw [hlast, List.isEmpty_iff.1 hempty]

/-- The accepting task is at its end when the first pass is over, so that no call is under way when the
handles are taken again. -/
theorem Tended.second (hl : Tended l) (hpool : Spawn.Pool.Reachable config l.pool)
    (hs : l.stopping = .firstPass) (hover : l.passIsOver = true) (h : Stepped l.pool .takeHandles q) :
    Tended { l with pool := q, stopping := .secondPass } := by
  have hstaged := hl.staged
  rw [hs] at hstaged
  obtain ⟨hdone, hone, hhanded⟩ := hstaged
  have hjoining : l.pool.joining = [[]] := by
    obtain ⟨held, hheld⟩ := List.length_eq_one_iff.1 hone
    have hempty := joining_of_over hone hover
    rw [hheld] at hempty
    cases hempty
    exact hheld
  have hidle : l.pool.tasks[0]? ≠ some .running := by
    obtain hnone | htaken := hhanded
    · simp [hnone]
    · rw [hjoining] at htaken
      have hfinished := hpool.conserved.finished 0 (by simpa using htaken)
      rw [Spawn.Pool.isFinished_iff.1 hfinished]
      simp
  cases h with
  | takeHandles =>
    refine ⟨hl.alone, hl.own, hl.busy, ⟨?_, rfl, ?_⟩, ?_, hidle⟩
    · intro c hc
      obtain ⟨i, hi⟩ := List.mem_iff_getElem?.1 hc
      exact hl.settled hdone hidle (Option.map_eq_some_iff.2 ⟨c, hi, rfl⟩)
    · intro j held hheld hj
      rw [hjoining] at hheld
      obtain hfirst | ⟨hlast, -⟩ := of_getElem?_concat hheld
      · exact List.mem_singleton.1 (List.mem_of_getElem? hfirst)
      · exact (hj hlast).elim
    · simp [hjoining]

theorem Tended.stop (hl : Tended l) (hs : l.stopping = .secondPass) (hover : l.passIsOver = true) :
    Tended { l with stopping := .stopped } := by
  have hstaged := hl.staged
  rw [hs] at hstaged
  obtain ⟨hvacated, htwo, hidle⟩ := hstaged
  exact ⟨hl.alone, hl.own, hl.busy, hvacated, joining_of_over htwo hover, hidle⟩

theorem Tended.cancel (hl : Tended l) (hstarted : l.isStarted = true) (hs : l.stopping = .running) :
    Tended { l with stopping := .cancelled } := by
  have hstaged := hl.staged
  rw [hs] at hstaged
  exact ⟨hl.alone, hl.own, hl.busy, isStarted_iff.1 hstarted, hstaged⟩

theorem Moved.tended (h : Moved l event m) (hl : Tended l)
    (hpool : Spawn.Pool.Reachable config l.pool) : Tended m := by
  cases h with
  | finish _ hat => exact hl.turn .ended (by simp [hat]) nofun
  | goOn haccepting hat =>
    exact hl.turn .taking (by simp [hat]) fun _ => isAccepting_iff.1 haccepting
  | accept _ hat hcall => exact hl.accept hat hcall
  | idle _ hat => exact hl.turn .looking (by simp [hat]) nofun
  | fail _ hat => exact hl.turn .ended (by simp [hat]) nofun
  | spawned hat hdone =>
    apply hl.setAccepting .looking ?_ nofun
    intro i phase hspawning hphase
    rw [hat] at hspawning
    cases hspawning
    rw [hdone] at hphase
    cases hphase
    rfl
  | pool hadmits h => exact hl.pool hadmits (Spawn.Pool.step_stepped h)
  | cancel hstarted hs => exact hl.cancel hstarted hs
  | first hs h => exact hl.first hpool hs (Spawn.Pool.step_stepped h)
  | second hs hover h => exact hl.second hpool hs hover (Spawn.Pool.step_stepped h)
  | stop hs hover => exact hl.stop hs hover

theorem Tended.start : Tended .start := by
  constructor
  · intro i phase hphase
    obtain hold | ⟨hi, -⟩ := Spawn.Pool.of_phase?_append hphase
    · cases hold
    · exact .inr (.inl hi)
  · intro i phase hphase _
    obtain hold | ⟨hi, -⟩ := Spawn.Pool.of_phase?_append hphase
    · cases hold
    · exact hi
  · nofun
  · rfl

theorem Reachable.tended (hl : Reachable l) : Tended l := by
  induction hl with
  | start => exact .start
  | step event hl h ih => exact (step_moved h).tended ih hl.pool_reachable

theorem Tended.finished (hl : Tended l) (hpool : Spawn.Pool.Reachable config l.pool)
    (hs : l.stopping = .stopped) :
    ∀ task < l.pool.tasks.length, l.pool.isFinished task = true := by
  have hstaged := hl.staged
  rw [hs] at hstaged
  obtain ⟨hvacated, hover, -⟩ := hstaged
  intro task htask
  exact hvacated.finished hpool hover htask

/-- Nothing runs any more in a listener that was stopped, and nothing is started. -/
theorem Moved.rests (h : Moved l event m) (hl : Tended l)
    (hpool : Spawn.Pool.Reachable config l.pool) (hs : l.stopping = .stopped) :
    m.stopping = .stopped ∧ m.pool.tasks = l.pool.tasks := by
  have hstaged := hl.staged
  rw [hs] at hstaged
  obtain ⟨hvacated, -, hidle⟩ := hstaged
  cases h with
  | finish h | goOn h | accept h | idle h | fail h => exact (hidle (isAccepting_iff.1 h)).elim
  | spawned => exact ⟨hs, rfl⟩
  | pool _ h => exact ⟨hs, hvacated.tasks_eq (Spawn.Pool.step_stepped h) (hl.finished hpool hs)⟩
  | cancel _ hrunning =>
    rw [hs] at hrunning
    cases hrunning
  | first hcancelled =>
    rw [hs] at hcancelled
    cases hcancelled
  | second hfirst =>
    rw [hs] at hfirst
    cases hfirst
  | stop => exact ⟨rfl, rfl⟩

theorem Reachable.run (hl : Reachable l) (events : List Event) (h : l.run events = some m) :
    Reachable m := by
  induction events generalizing l with
  | nil =>
    cases h
    exact hl
  | cons event events ih =>
    obtain ⟨k, hk, hrest⟩ := Option.bind_eq_some_iff.1 h
    exact ih (hl.step event hk) hrest

theorem Reachable.rests {events : List Event} (hl : Reachable l) (hs : l.stopping = .stopped)
    (h : l.run events = some m) : m.pool.tasks = l.pool.tasks := by
  induction events generalizing l with
  | nil =>
    cases h
    rfl
  | cons event events ih =>
    obtain ⟨k, hk, hrest⟩ := Option.bind_eq_some_iff.1 h
    obtain ⟨hstopped, htasks⟩ := (step_moved hk).rests hl.tended hl.pool_reachable hs
    rw [ih (hl.step event hk) hstopped hrest, htasks]

theorem Reachable.isQuiet (hl : Reachable l) (hs : l.stopping = .stopped) : l.isQuiet = true := by
  rw [Listener.isQuiet, List.all_eq_true]
  intro phase hphase
  obtain ⟨task, hlt, rfl⟩ := List.mem_iff_getElem.1 hphase
  have hfinished := hl.tended.finished hl.pool_reachable hs task hlt
  rw [Spawn.Pool.isFinished_iff, List.getElem?_eq_getElem hlt] at hfinished
  rw [Option.some.inj hfinished]
  rfl

/-- When a listener is stopped, every task that it ever spawned is finished, that which accepts connections
and one for each of them, and no further one is spawned whatever happens. -/
theorem stopped_leaves_nothing (hl : Reachable l) (hstopped : l.stopping = .stopped) :
    l.isQuiet = true ∧ ∀ events m, l.run events = some m → m.pool.tasks = l.pool.tasks := by
  constructor
  · exact hl.isQuiet hstopped
  · intro events m h
    exact hl.rests hstopped h

/-- A connection is taken before the token is cancelled, and its handle is tracked only after the first
pass has begun: one pass leaves its task, the second does not. -/
theorem stopped_leaves_nothing_late_connection : ∃ l m : Listener,
    Reachable l ∧ l.stopping = .firstPass ∧ l.passIsOver = true ∧ l.isQuiet = false ∧
    (∃ events, l.run events = some m) ∧ m.stopping = .stopped ∧ m.isQuiet = true ∧
    ∀ events k, m.run events = some k → k.pool.tasks = m.pool.tasks := by
  let calls : List Spawn.Call :=
    [⟨config.threadName 0, .done (.ok 0)⟩, ⟨config.threadName 1, .done (.ok 1)⟩]
  let l : Listener := ⟨⟨config, 1, calls, [.finished, .running], 1, 2, [1], [[]], [0]⟩, .ended, .firstPass⟩
  let m : Listener :=
    ⟨⟨config, 0, calls, [.finished, .finished], 2, 2, [], [[], []], [0, 1]⟩, .ended, .stopped⟩
  have hl : Reachable l := Reachable.start.run [.pool (.ask 0 true), .pool (.look 0),
    .pool (.create 0 none), .pool (.lock 0), .pool (.inspect 0), .look, .take .connection, .cancel,
    .takeHandles, .pool (.ask 1 true), .pool (.look 1), .pool (.create 1 none), .pool (.lock 1),
    .pool (.inspect 1), .spawned, .look, .pool (.release 0), .pool (.exit 0), .pool (.joinNext 0)] rfl
  have hrest : l.run [.takeHandles, .pool (.release 1), .pool (.exit 1), .pool (.joinNext 1),
    .endPass] = some m := rfl
  obtain ⟨hquiet, hafter⟩ := stopped_leaves_nothing (hl.run _ hrest) rfl
  exact ⟨l, m, hl, rfl, rfl, rfl, ⟨_, hrest⟩, rfl, hquiet, hafter⟩

end Relay.Listener
