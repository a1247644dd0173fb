import Relay.Proofs.Places
import Relay.Spawn.Pool

namespace Relay.Spawn

def CallPhase.isDone : CallPhase → Bool
  | .done _ => true
  | _ => false

def Event.isCall : Event → Bool
  | .call _ => true
  | _ => false

namespace Pool

/-- The pools that can come about when anything happens to one that nothing was spawned on. -/
inductive Reachable (config : Config) : Pool → Prop
  | start : Reachable config (.ofConfig config)
  | step {p q : Pool} (event : Event) : Reachable config p → p.step event = some q →
    Reachable config q

inductive Stepped (p : Pool) : Event → Pool → Prop
  | call (given : Option String) (thread : String) (nextId : Nat) :
    Stepped p (.call given) { p with calls := p.calls ++ [⟨thread, .asking⟩], nextId }
  | permit {i : Nat} (h : p.phase? i = some .asking) :
    Stepped p (.ask i true) (p.setCall i .arriving)
  | deny {i : Nat} (h : p.phase? i = some .asking) :
    Stepped p (.ask i false) (p.setCall i (.done (.error .notPermitted)))
  | refuse {i limit : Nat} {phase : CallPhase} (h : p.phase? i = some phase)
    (hlook : phase.mayLook = true) (hlimit : p.config.limit = some limit) (hfull : limit ≤ p.active)
    (hpolicy : p.config.saturation = .reject) :
    Stepped p (.look i) (p.setCall i (.done (.error (.saturated limit))))
  | park {i limit : Nat} {phase : CallPhase} (h : p.phase? i = some phase)
    (hlook : phase.mayLook = true) (hlimit : p.config.limit = some limit) (hfull : limit ≤ p.active)
    (hpolicy : p.config.saturation = .block) : Stepped p (.look i) (p.setCall i .parked)
  | acquire {i : Nat} {phase : CallPhase} (h : p.phase? i = some phase)
    (hlook : phase.mayLook = true)
    (hroom : ∀ limit, p.config.limit = some limit → p.active < limit) :
    Stepped p (.look i) { p.setCall i .holding with active := p.active + 1 }
  | create {i : Nat} (h : p.phase? i = some .holding) :
    Stepped p (.create i none)
      { p.setCall i (.started p.tasks.length) with tasks := p.tasks ++ [.running] }
  | fail {i : Nat} (cause : String) (h : p.phase? i = some .holding) :
    Stepped p (.create i (some cause)) (p.setCall i (.done (.error (.noThread cause)))).freeSlot
  | track {i task : Nat} (h : p.phase? i = some (.started task)) (hfree : p.isLocked = false) :
    Stepped p (.track i) { p.setCall i (.done (.ok task)) with
      tracked := (reap p.isFinished p.tracked).2 ++ [task]
      joined := p.joined ++ (reap p.isFinished p.tracked).1 }
  | lock {i task : Nat} (h : p.phase? i = some (.started task)) (hfree : p.isLocked = false) :
    Stepped p (.lock i) (p.setCall i (.reaping task 0))
  | keep {i task place handle : Nat} (h : p.phase? i = some (.reaping task place))
    (hat : p.tracked[place]? = some handle) (hrunning : p.isFinished handle = false) :
    Stepped p (.inspect i) (p.setCall i (.reaping task (place + 1)))
  | takeOut {i task place handle : Nat} (h : p.phase? i = some (.reaping task place))
    (hat : p.tracked[place]? = some handle) (hfinished : p.isFinished handle = true) :
    Stepped p (.inspect i) { p.setCall i (.disposing task place handle) with
      tracked := swapRemove p.tracked place }
  | push {i task place : Nat} (h : p.phase? i = some (.reaping task place))
    (hend : p.tracked[place]? = none) :
    Stepped p (.inspect i) { p.setCall i (.done (.ok task)) with tracked := p.tracked ++ [task] }
  | dispose {i task place handle : Nat} (h : p.phase? i = some (.disposing task place handle))
    (hfinished : p.isFinished handle = true) :
    Stepped p (.dispose i)
      { p.setCall i (.reaping task place) with joined := p.joined ++ [handle] }
  | release {task : Nat} (h : p.tasks[task]? = some .running) :
    Stepped p (.release task) (p.setTask task .leaving).freeSlot
  | exit {task : Nat} (h : p.tasks[task]? = some .leaving) :
    Stepped p (.exit task) (p.setTask task .finished)
  | wake {i notices : Nat} (hdue : p.notices = notices + 1) (h : p.phase? i = some .parked) :
    Stepped p (.notice (some i)) ({ p with notices }.setCall i .notified)
  | lapse {notices : Nat} (hdue : p.notices = notices + 1)
    (h : ∀ c ∈ p.calls, c.phase.isParked = false) : Stepped p (.notice none) { p with notices }
  | leave {i : Nat} (h : p.phase? i = some .parked) : Stepped p (.leave i) (p.setCall i .arriving)
  | takeHandles (hfree : p.isLocked = false) :
    Stepped p .takeHandles { p with tracked := [], joining := p.joining ++ [p.tracked] }
  | joinNext {joiner task : Nat} {rest : List Nat} (h : p.joining[joiner]? = some (task :: rest))
    (hfinished : p.isFinished task = true) :
    Stepped p (.joinNext joiner)
      { p with joining := p.joining.set joiner rest, joined := p.joined ++ [task] }

variable {config : Config} {p q : Pool} {i limit : Nat} {event : Event} {phase : CallPhase}

theorem isSaturated_iff : p.isSaturated = true ↔
    ∃ limit, p.config.limit = some limit ∧ limit ≤ p.active := by
  simp [isSaturated, Option.any_eq_true]

theorem acquire_eq (h : p.isSaturated = false) :
    p.acquire i = { p.setCall i .holding with active := p.active + 1 } := by
  rw [acquire, h]
  cases p.config.limit <;> rfl

theorem look_stepped (h : p.phase? i = some phase) (hlook : phase.mayLook = true) :
    Stepped p (.look i) (p.acquire i) := by
  cases hsaturated : p.isSaturated with
  | true =>
    obtain ⟨limit, hlimit, hfull⟩ := isSaturated_iff.1 hsaturated
    cases hpolicy : p.config.saturation with
    | reject =>
      simp only [acquire, hlimit, hsaturated, hpolicy]
      exact .refuse h hlook hlimit hfull hpolicy
    | block =>
      simp only [acquire, hlimit, hsaturated, hpolicy]
      exact .park h hlook hlimit hfull hpolicy
  | false =>
    rw [acquire_eq hsaturated]
    apply Stepped.acquire h hlook
    intro limit hlimit
    by_contra hfull
    have htrue := isSaturated_iff.2 ⟨limit, hlimit, Nat.le_of_not_lt hfull⟩
    exact Bool.false_ne_true (hsaturated.symm.trans htrue)

theorem isParked_iff : phase.isParked = true ↔ phase = .parked := by
  cases phase <;> simp [CallPhase.isParked]

theorem notice_stepped {woken : Option Nat} (h : p.step (.notice woken) = some q) :
    Stepped p (.notice woken) q := by
  simp only [step] at h
  split at h
  · cases h
  · rename_i n hdue
    cases woken with
    | none =>
      simp only [wake] at h
      split at h
      · cases h
      · rename_i hnobody
        cases h
        apply Stepped.lapse hdue
        intro c hc
        rw [Bool.eq_false_iff]
        intro hparked
        exact hnobody (List.any_eq_true.2 ⟨c, hc, hparked⟩)
    | some i =>
      simp only [wake] at h
      split at h
      · rename_i hwaits
        cases h
        obtain ⟨phase, hphase, hparked⟩ := (Option.any_eq_true _ _).1 hwaits
        cases isParked_iff.1 hparked
        exact .wake hdue hphase
      · cases h

theorem inspect_stepped (h : p.step (.inspect i) = some q) : Stepped p (.inspect i) q := by
  simp only [step] at h
  split at h
  · rename_i task place hphase
    split at h
    · rename_i handle hat
      split at h
      · rename_i hfinished
        cases h
        exact .takeOut hphase hat hfinished
      · rename_i hrunning
        cases h
        exact .keep hphase hat (Bool.eq_false_iff.2 hrunning)
    · rename_i hend
      cases h
      exact .push hphase hend
  · cases h

theorem step_stepped (h : p.step event = some q) : Stepped p event q := by
  cases event with
  | call thread =>
    cases thread with
    | none =>
      cases h
      exact .call none _ _
    | some thread =>
      cases h
      exact .call (some thread) thread p.nextId
  | ask i permitted =>
    simp only [step] at h
    split at h
    · rename_i hphase
      cases permitted with
      | true =>
        cases h
        exact .permit hphase
      | false =>
        cases h
        exact .deny hphase
    · cases h
  | look i =>
    simp only [step] at h
    split at h
    · rename_i hmay
      cases h
      obtain ⟨phase, hphase, hlook⟩ := (Option.any_eq_true _ _).1 hmay
      exact look_stepped hphase hlook
    · cases h
  | create i failure =>
    simp only [step] at h
    split at h
    · rename_i hphase
      cases h
      exact .create hphase
    · rename_i cause hphase
      cases h
      exact .fail cause hphase
    · cases h
  | track i =>
    simp only [step] at h
    split at h
    · rename_i task hphase
      split at h
      · cases h
      · rename_i hfree
        cases h
        exact .track hphase (Bool.eq_false_iff.2 hfree)
    · cases h
  | lock i =>
    simp only [step] at h
    split at h
    · rename_i task hphase
      split at h
      · cases h
      · rename_i hfree
        cases h
        exact .lock hphase (Bool.eq_false_iff.2 hfree)
    · cases h
  | inspect i => exact inspect_stepped h
  | dispose i =>
    simp only [step] at h
    split at h
    · rename_i task place handle hphase
      split at h
      · rename_i hfinished
        cases h
        exact .dispose hphase hfinished
      · cases h
    · cases h
  | release task =>
    simp only [step] at h
    split at h
    · rename_i hrunning
      cases h
      exact .release (eq_of_beq hrunning)
    · cases h
  | exit task =>
    simp only [step] at h
    split at h
    · rename_i hleaving
      cases h
      exact .exit (eq_of_beq hleaving)
    · cases h
  | notice woken => exact notice_stepped h
  | leave i =>
    simp only [step] at h
    split at h
    · rename_i hparked
      obtain ⟨phase, hphase, hparked⟩ := (Option.any_eq_true _ _).1 hparked
      cases h
      cases isParked_iff.1 hparked
      exact .leave hphase
    · cases h
  | takeHandles =>
    simp only [step] at h
    split at h
    · cases h
    · rename_i hfree
      cases h
      exact .takeHandles (Bool.eq_false_iff.2 hfree)
  | joinNext joiner =>
    simp only [step] at h
    split at h
    · rename_i task rest hjoining
      split at h
      · rename_i hfinished
        cases h
        exact .joinNext hjoining hfinished
      · cases h
    · cases h

def run (p : Pool) : List Event → Option Pool
  | [] => some p
  | event :: events => (p.step event).bind fun q => q.run events

theorem Reachable.run (hp : Reachable config p) (events : List Event)
    (h : p.run events = some q) : Reachable config q := by
  induction events generalizing p with
  | nil =>
    cases h
    exact hp
  | cons event events ih =>
    obtain ⟨r, hr, hrest⟩ := Option.bind_eq_some_iff.1 h
    exact ih (hp.step event hr) hrest

theorem Reachable.induction {P : Pool → Prop} (hp : Reachable config p)
    (hstart : P (.ofConfig config)) (hstep : ∀ p q event, P p → Stepped p event q → P q) : P p := by
  induction hp with
  | start => exact hstart
  | step event _ h ih => exact hstep _ _ event ih (step_stepped h)

theorem Stepped.config_eq (h : Stepped p event q) : q.config = p.config := by
  cases h <;> rfl

theorem Reachable.config_eq (hp : Reachable config p) : p.config = config := by
  apply hp.induction (P := fun p => p.config = config)
  · rfl
  · intro p q event hconfig h
    rw [h.config_eq, hconfig]

theorem phase?_setCall (i j : Nat) (phase : CallPhase) :
    (p.setCall i phase).phase? j = (p.phase? j).map fun old => if i = j then phase else old := by
  rw [phase?, setCall, List.getElem?_modify, phase?]
  cases p.calls[j]? with
  | none => rfl
  | some c =>
    by_cases hij : i = j
    · simp [hij]
    · simp [hij]

theorem of_phase?_setCall {j : Nat} {new : CallPhase} (h : (p.setCall i new).phase? j = some phase) :
    i = j ∧ phase = new ∨ i ≠ j ∧ p.phase? j = some phase := by
  rw [phase?_setCall] at h
  obtain ⟨old, hold, hphase⟩ := Option.map_eq_some_iff.1 h
  by_cases hij : i = j
  · rw [if_pos hij] at hphase
    exact .inl ⟨hij, hphase.symm⟩
  · rw [if_neg hij] at hphase
    exact .inr ⟨hij, hphase ▸ hold⟩

theorem of_phase?_append {c : Call}
    (h : Pool.phase? { p with calls := p.calls ++ [c] } i = some phase) :
    p.phase? i = some phase ∨ i = p.calls.length ∧ c.phase = phase := by
  obtain ⟨d, hd, hphase⟩ := Option.map_eq_some_iff.1 h
  obtain hd | ⟨hi, rfl⟩ := of_getElem?_concat hd
  · exact .inl (Option.map_eq_some_iff.2 ⟨d, hd, hphase⟩)
  · exact .inr ⟨hi, hphase⟩

theorem phase?_append {c : Call} {old : CallPhase} (h : p.phase? i = some old) :
    Pool.phase? { p with calls := p.calls ++ [c] } i = some old := by
  obtain ⟨d, hd, hold⟩ := Option.map_eq_some_iff.1 h
  have hlt := (List.getElem?_eq_some_iff.1 hd).1
  rw [phase?, List.getElem?_append_left hlt, hd, ← hold]
  rfl

theorem isDone_of_mayLook (h : phase.mayLook = true) : phase.isDone = false := by
  cases phase with
  | done => cases h
  | _ => rfl

theorem Stepped.phase_cases (h : Stepped p event q) (hcall : event.isCall = false)
    (hq : q.phase? i = some phase) :
    p.phase? i = some phase ∨ ∃ old, p.phase? i = some old ∧ old.isDone = false := by
  cases h with
  | call => cases hcall
  | refuse h hlook | park h hlook | acquire h hlook =>
    obtain ⟨rfl, -⟩ | ⟨-, hold⟩ := of_phase?_setCall (p := p) hq
    · exact .inr ⟨_, h, isDone_of_mayLook hlook⟩
    · exact .inl hold
  | permit h | deny h | create h | fail _ h | track h | lock h | keep h | takeOut h | push h
  | dispose h | wake _ h | leave h =>
    obtain ⟨rfl, -⟩ | ⟨-, hold⟩ := of_phase?_setCall (p := p) hq
    · exact .inr ⟨_, h, rfl⟩
    · exact .inl hold
  | release | exit | lapse | takeHandles | joinNext => exact .inl hq

theorem Stepped.joining_length (h : Stepped p event q) (hne : event ≠ .takeHandles) :
    q.joining.length = p.joining.length := by
  cases h with
  | takeHandles => exact (hne rfl).elim
  | joinNext => exact List.length_set
  | _ => rfl

theorem Stepped.running {task : Nat} (h : Stepped p event q) (hne : event ≠ .release task)
    (hrunning : p.tasks[task]? = some .running) : q.tasks[task]? = some .running := by
  cases h with
  | create =>
    have hlt := (List.getElem?_eq_some_iff.1 hrunning).1
    exact (List.getElem?_append_left hlt).trans hrunning
  | @release other h =>
    have hother : other ≠ task := by
      rintro rfl
      exact hne rfl
    exact (List.getElem?_set_ne hother).trans hrunning
  | @exit other h =>
    have hother : other ≠ task := by
      rintro rfl
      rw [hrunning] at h
      cases h
    exact (List.getElem?_set_ne hother).trans hrunning
  | _ => exact hrunning

theorem Stepped.of_running {task : Nat} (h : Stepped p event q)
    (hrunning : q.tasks[task]? = some .running) :
    p.tasks[task]? = some .running ∨ ∃ i, p.phase? i = some .holding := by
  cases h with
  | create h => exact .inr ⟨_, h⟩
  | release =>
    obtain ⟨-, hphase⟩ | ⟨-, hold⟩ := of_getElem?_set hrunning
    · cases hphase
    · exact .inl hold
  | exit =>
    obtain ⟨-, hphase⟩ | ⟨-, hold⟩ := of_getElem?_set hrunning
    · cases hphase
    · exact .inl hold
  | _ => exact .inl hrunning

theorem Stepped.tasks_nil (h : Stepped p event q) (hnone : p.tasks = []) :
    q.tasks = [] ∨ ∃ i, p.phase? i = some .holding := by
  cases h with
  | create h => exact .inr ⟨_, h⟩
  | release h | exit h =>
    rw [hnone] at h
    cases h
  | _ => exact .inl hnone

end Pool

end Relay.Spawn
