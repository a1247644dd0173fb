import Relay.Proofs.Spawn.Slots

namespace Relay.Spawn

/-- The task that a call has started, while its handle is not tracked yet. -/
def CallPhase.untracked? : CallPhase → Option Nat
  | .started task | .reaping task _ | .disposing task _ _ => some task
  | _ => none

def CallPhase.inHand? : CallPhase → Option Nat
  | .disposing _ _ handle => some handle
  | _ => none

namespace Pool

def untracked (p : Pool) : List Nat := p.calls.filterMap (·.phase.untracked?)

def inHand (p : Pool) : List Nat := p.calls.filterMap (·.phase.inHand?)

def places (p : Pool) : List Nat :=
  p.untracked ++ p.tracked ++ p.inHand ++ p.joining.flatten ++ p.joined

def made (p : Pool) : Event → List Nat
  | .create _ none => [p.tasks.length]
  | _ => []

/-- Nobody else uses the pool: every call is done, and every join is over. -/
structure IsOwned (p : Pool) : Prop where
  calls : ∀ c ∈ p.calls, c.phase.isDone = true
  joins : ∀ held ∈ p.joining, held = []

/-- What a pool comes to while its owner shuts it down: the handles are taken to be joined, and nobody
calls any more. -/
inductive ShutDown (p : Pool) : Pool → Prop
  | take {q : Pool} : p.step .takeHandles = some q → ShutDown p q
  | step {q r : Pool} (event : Event) : ShutDown p q → event.isCall = false →
    q.step event = some r → ShutDown p r

variable {config : Config} {p q r : Pool} {i j k task place handle : Nat} {event : Event}
  {phase new : CallPhase}

theorem mem_untracked :
    task ∈ p.untracked ↔ ∃ i phase, p.phase? i = some phase ∧ phase.untracked? = some task := by
  rw [untracked, List.mem_filterMap]
  constructor
  · rintro ⟨c, hc, hcarried⟩
    obtain ⟨i, hi⟩ := List.mem_iff_getElem?.1 hc
    exact ⟨i, c.phase, Option.map_eq_some_iff.2 ⟨c, hi, rfl⟩, hcarried⟩
  · rintro ⟨i, phase, hphase, hcarried⟩
    obtain ⟨c, hc, rfl⟩ := Option.map_eq_some_iff.1 hphase
    exact ⟨c, List.mem_of_getElem? hc, hcarried⟩

theorem inHand_of_not_locked (h : p.isLocked = false) : p.inHand = [] := by
  rw [inHand, List.filterMap_eq_nil_iff]
  intro c hc
  rw [isLocked, List.any_eq_false] at h
  have hfree := h c hc
  cases hphase : c.phase with
  | disposing =>
    rw [hphase] at hfree
    exact (hfree rfl).elim
  | _ => rfl

theorem count_places (p : Pool) (handle : Nat) : p.places.count handle =
    p.untracked.count handle + p.tracked.count handle + p.inHand.count handle +
      p.joining.flatten.count handle + p.joined.count handle := by
  simp only [places, List.count_append]

theorem count_setCall (g : CallPhase → Option Nat) (h : p.phase? i = some phase) (new : CallPhase)
    (handle : Nat) :
    (g phase).toList.count handle + ((p.setCall i new).calls.filterMap (g ·.phase)).count handle =
      (g new).toList.count handle + (p.calls.filterMap (g ·.phase)).count handle := by
  obtain ⟨c, hc, rfl⟩ := Option.map_eq_some_iff.1 h
  have hperm := filterMap_modify_perm (g := fun c => g c.phase) (f := fun c => { c with phase := new }) hc
  have hcount := hperm.count_eq handle
  rw [List.count_append, List.count_append] at hcount
  exact hcount

theorem places_of_moved (made : List Nat) (h : p.phase? i = some phase)
    (hcalls : q.calls = (p.setCall i new).calls) (hjoining : q.joining = p.joining)
    (hmoved : (new.untracked?.toList ++ new.inHand?.toList ++ (q.tracked ++ q.joined)).Perm
      (made ++ (phase.untracked?.toList ++ phase.inHand?.toList ++ (p.tracked ++ p.joined)))) :
    q.places.Perm (made ++ p.places) := by
  rw [List.perm_iff_count] at hmoved ⊢
  intro handle
  have huntracked := count_setCall CallPhase.untracked? h new handle
  have hhand := count_setCall CallPhase.inHand? h new handle
  have hcount := hmoved handle
  simp only [List.count_append] at hcount
  rw [List.count_append, count_places, count_places, untracked, untracked, inHand, inHand, hcalls,
    hjoining]
  omega

theorem places_setCall (h : p.phase? i = some phase) (huntracked : new.untracked? = phase.untracked?)
    (hhand : new.inHand? = phase.inHand?) : (p.setCall i new).places.Perm p.places := by
  apply places_of_moved [] h rfl rfl
  rw [huntracked, hhand]
  exact .refl _

theorem carries_nothing_of_mayLook (h : phase.mayLook = true) :
    none = phase.untracked? ∧ none = phase.inHand? := by
  cases phase with
  | arriving => exact ⟨rfl, rfl⟩
  | notified => exact ⟨rfl, rfl⟩
  | _ => cases h

theorem reap_moved (finished : Nat → Bool) (tracked joined : List Nat) (task : Nat) :
    ((reap finished tracked).2 ++ [task] ++ (joined ++ (reap finished tracked).1)).Perm
      ([task] ++ (tracked ++ joined)) := by
  obtain ⟨hjoined, hkept⟩ := @reap_perm _ finished tracked
  rw [List.perm_iff_count]
  intro handle
  have hsplit := (List.filter_append_perm finished tracked).count_eq handle
  rw [List.count_append, ← hjoined.count_eq, ← hkept.count_eq] at hsplit
  simp only [List.count_append]
  omega

theorem swapRemove_moved {tracked : List Nat} (hat : tracked[place]? = some handle) :
    ([task] ++ [handle] ++ (swapRemove tracked place ++ p.joined)).Perm
      ([task] ++ (tracked ++ p.joined)) := by
  have hremoved := (swapRemove_perm hat).append_right p.joined
  exact hremoved.append_left [task]

theorem places_takeHandles :
    Pool.places { p with tracked := [], joining := p.joining ++ [p.tracked] } |>.Perm p.places := by
  rw [List.perm_iff_count]
  intro handle
  simp only [count_places, untracked, inHand, List.flatten_append, List.flatten_singleton,
    List.count_append, List.count_nil]
  omega

theorem joinNext_moved {rest : List Nat} (h : p.joining[j]? = some (handle :: rest)) :
    ((p.joining.set j rest).flatten ++ (p.joined ++ [handle])).Perm
      (p.joining.flatten ++ p.joined) := by
  rw [List.perm_iff_count]
  intro other
  have hset := (flatten_set_perm h rest).count_eq other
  rw [← List.singleton_append, List.append_assoc] at hset
  simp only [List.count_append] at hset ⊢
  omega

/-- A step moves handles from place to place. Only where a task is started is one made. -/
theorem Stepped.places (h : Stepped p event q) : q.places.Perm (p.made event ++ p.places) := by
  cases h with
  | call given thread nextId =>
    simp only [Pool.places, untracked, inHand, List.filterMap_append, made]
    simp [CallPhase.untracked?, CallPhase.inHand?]
  | permit h => exact places_setCall h rfl rfl
  | deny h => exact places_setCall h rfl rfl
  | refuse h hlook =>
    obtain ⟨huntracked, hhand⟩ := carries_nothing_of_mayLook hlook
    exact places_setCall h huntracked hhand
  | park h hlook =>
    obtain ⟨huntracked, hhand⟩ := carries_nothing_of_mayLook hlook
    exact places_setCall h huntracked hhand
  | acquire h hlook =>
    obtain ⟨huntracked, hhand⟩ := carries_nothing_of_mayLook hlook
    exact places_setCall h huntracked hhand
  | create h => exact places_of_moved [p.tasks.length] h rfl rfl (.refl _)
  | fail cause h => exact places_setCall h rfl rfl
  | track h => exact places_of_moved [] h rfl rfl (reap_moved _ _ _ _)
  | lock h => exact places_setCall h rfl rfl
  | keep h => exact places_setCall h rfl rfl
  | takeOut h hat => exact places_of_moved [] h rfl rfl (swapRemove_moved hat)
  | @push i task place h =>
    have hmoved : (p.tracked ++ [task] ++ p.joined).Perm ([task] ++ (p.tracked ++ p.joined)) := by
      rw [List.append_assoc]
      exact List.perm_append_comm_assoc _ _ _
    exact places_of_moved [] h rfl rfl hmoved
  | @dispose i task place handle h =>
    have hmoved : ([task] ++ (p.tracked ++ (p.joined ++ [handle]))).Perm
        ([task] ++ ([handle] ++ (p.tracked ++ p.joined))) := by
      rw [← List.append_assoc p.tracked]
      exact List.perm_append_comm.append_left [task]
    exact places_of_moved [] h rfl rfl hmoved
  | release | exit | lapse => exact .refl _
  | wake hdue h => exact places_setCall (p := p) h rfl rfl
  | leave h => exact places_setCall h rfl rfl
  | takeHandles => exact places_takeHandles
  | joinNext h =>
    have hmoved := (joinNext_moved h).append_left (p.untracked ++ p.tracked ++ p.inHand)
    rw [← List.append_assoc, ← List.append_assoc _ p.joining.flatten] at hmoved
    exact hmoved

theorem Stepped.range_tasks (h : Stepped p event q) :
    List.range q.tasks.length = List.range p.tasks.length ++ p.made event := by
  cases h with
  | create =>
    rw [List.length_append, List.length_singleton, List.range_succ]
    rfl
  | @release task =>
    change List.range (p.tasks.set task .leaving).length = List.range p.tasks.length ++ []
    rw [List.length_set, List.append_nil]
  | @exit task =>
    change List.range (p.tasks.set task .finished).length = List.range p.tasks.length ++ []
    rw [List.length_set, List.append_nil]
  | _ => exact (List.append_nil _).symm

theorem setCall_setCall (p : Pool) (i : Nat) (first second : CallPhase) :
    (p.setCall i first).setCall i second = p.setCall i second := by
  simp only [setCall, List.modify_modify_eq]
  rfl

theorem run_pass (h : p.phase? i = some (.reaping task place)) :
    ∃ events, (∀ e ∈ events, e = .inspect i ∨ e = .dispose i) ∧
      p.run events = some { p.setCall i (.done (.ok task)) with
        tracked := (reapFrom p.isFinished p.tracked place).2 ++ [task]
        joined := p.joined ++ (reapFrom p.isFinished p.tracked place).1 } := by
  induction hn : p.tracked.length - place generalizing p place with
  | zero =>
    have hend : p.tracked[place]? = none := List.getElem?_eq_none (Nat.le_of_sub_eq_zero hn)
    refine ⟨[.inspect i], by simp, ?_⟩
    rw [reapFrom, dif_neg (Nat.not_lt.2 (Nat.le_of_sub_eq_zero hn))]
    simp [run, step, h, hend, setCall]
  | succ n ih =>
    have hlt : place < p.tracked.length := by omega
    have hat : p.tracked[place]? = some p.tracked[place] := List.getElem?_eq_getElem hlt
    rw [reapFrom, dif_pos hlt]
    cases hfinished : p.isFinished p.tracked[place] with
    | false =>
      have hstep : p.step (.inspect i) = some (p.setCall i (.reaping task (place + 1))) := by
        simp [step, h, hat, hfinished]
      have hleft : (p.setCall i (.reaping task (place + 1))).tracked.length - (place + 1) = n := by
        change p.tracked.length - (place + 1) = n
        omega
      obtain ⟨events, hevents, hrun⟩ := ih (phase?_setCall_self h) hleft
      refine ⟨.inspect i :: events, by simpa using hevents, ?_⟩
      rw [run, hstep, Option.bind_some, hrun, setCall_setCall]
      rfl
    | true =>
      let taken : Pool := { p.setCall i (.disposing task place p.tracked[place]) with
        tracked := swapRemove p.tracked place }
      let joined : Pool := { taken.setCall i (.reaping task place) with
        joined := p.joined ++ [p.tracked[place]] }
      have htaken : p.step (.inspect i) = some taken := by
        simp [step, h, hat, hfinished, taken]
      have hphase : taken.phase? i = some (.disposing task place p.tracked[place]) :=
        phase?_setCall_self h
      have hjoined : taken.step (.dispose i) = some joined := by
        simp only [step, hphase]
        exact if_pos hfinished
      have hleft : joined.tracked.length - place = n := by
        change (swapRemove p.tracked place).length - place = n
        rw [length_swapRemove]
        omega
      have hreaping : joined.phase? i = some (.reaping task place) := phase?_setCall_self hphase
      obtain ⟨events, hevents, hrun⟩ := ih hreaping hleft
      refine ⟨.inspect i :: .dispose i :: events, by simpa using hevents, ?_⟩
      have hdone : joined.setCall i (.done (.ok task)) = { p.setCall i (.done (.ok task)) with
          tracked := swapRemove p.tracked place, joined := p.joined ++ [p.tracked[place]] } := by
        simp only [joined, taken, setCall, List.modify_modify_eq]
        rfl
      rw [run, htaken, Option.bind_some, run, hjoined, Option.bind_some, hrun, hdone,
        List.append_assoc]
      rfl

/-- Joining the finished handles at once is what a call comes to that nothing interrupts. -/
theorem run_of_track (h : p.step (.track i) = some q) : ∃ events,
    (∀ e ∈ events, e = .lock i ∨ e = .inspect i ∨ e = .dispose i) ∧ p.run events = some q := by
  cases step_stepped h with
  | @track _ task hphase hfree =>
    have hlock : p.step (.lock i) = some (p.setCall i (.reaping task 0)) := by
      simp [step, hphase, hfree]
    obtain ⟨events, hevents, hrun⟩ := run_pass (phase?_setCall_self hphase)
    refine ⟨.lock i :: events, ?_, ?_⟩
    · rw [List.forall_mem_cons]
      exact ⟨.inl rfl, fun e he => .inr (hevents e he)⟩
    · rw [run, hlock, Option.bind_some, hrun, setCall_setCall]
      rfl

theorem isFinished_iff : p.isFinished task = true ↔ p.tasks[task]? = some .finished := by
  rw [isFinished, beq_iff_eq]

theorem Stepped.finished (h : Stepped p event q) (hfinished : p.isFinished task = true) :
    q.isFinished task = true := by
  rw [isFinished_iff] at hfinished ⊢
  cases h with
  | create =>
    have hlt := (List.getElem?_eq_some_iff.1 hfinished).1
    exact (List.getElem?_append_left hlt).trans hfinished
  | release h => exact getElem?_set_of_ne h hfinished nofun
  | exit h => exact getElem?_set_of_ne h hfinished nofun
  | _ => exact hfinished

theorem Stepped.joined_extends (h : Stepped p event q) : p.joined <+: q.joined := by
  cases h with
  | track => exact List.prefix_append _ _
  | dispose => exact List.prefix_append _ _
  | joinNext => exact List.prefix_append _ _
  | _ => exact List.prefix_rfl

theorem Stepped.mem_joined (h : Stepped p event q) (htask : task ∈ q.joined) :
    task ∈ p.joined ∨ p.isFinished task = true := by
  cases h with
  | track =>
    obtain hold | hreaped := List.mem_append.1 htask
    · exact .inl hold
    · have hfiltered := reap_perm p.tracked |>.1.mem_iff.1 hreaped
      exact .inr (List.mem_filter.1 hfiltered).2
  | dispose _ hfinished | joinNext _ hfinished =>
    obtain hold | hjoined := List.mem_append.1 htask
    · exact .inl hold
    · cases List.mem_singleton.1 hjoined
      exact .inr hfinished
  | _ => exact .inl htask

theorem Stepped.mem_taken (h : Stepped p event q) (htask : task ∈ p.joining.flatten ++ p.joined) :
    task ∈ q.joining.flatten ++ q.joined := by
  cases h with
  | track | dispose =>
    rw [← List.append_assoc]
    exact List.mem_append_left _ htask
  | takeHandles =>
    rw [List.flatten_append, List.append_assoc]
    obtain htaken | hjoined := List.mem_append.1 htask
    · exact List.mem_append_left _ htaken
    · exact List.mem_append_right _ (List.mem_append_right _ hjoined)
  | joinNext h => exact (joinNext_moved h).mem_iff.2 htask
  | _ => exact htask

theorem Stepped.untracked_cases (h : Stepped p event q) (hq : q.phase? i = some phase)
    (hcarried : phase.untracked? = some task) :
    (∃ old, p.phase? i = some old ∧ old.untracked? = some task) ∨
    p.phase? i = some .holding ∧ task = p.tasks.length := by
  cases h with
  | call =>
    obtain hold | ⟨-, rfl⟩ := of_phase?_append hq
    · exact .inl ⟨phase, hold, hcarried⟩
    · cases hcarried
  | create h =>
    obtain ⟨rfl, rfl⟩ | ⟨-, hold⟩ := of_phase?_setCall (p := p) hq
    · cases hcarried
      exact .inr ⟨h, rfl⟩
    · exact .inl ⟨phase, hold, hcarried⟩
  | lock h | keep h | takeOut h | dispose h =>
    obtain ⟨rfl, rfl⟩ | ⟨-, hold⟩ := of_phase?_setCall (p := p) hq
    · exact .inl ⟨_, h, hcarried⟩
    · exact .inl ⟨phase, hold, hcarried⟩
  | permit | deny | refuse | park | acquire | fail | track | push | wake | leave =>
    obtain ⟨-, rfl⟩ | ⟨-, hold⟩ := of_phase?_setCall (p := p) hq
    · cases hcarried
    · exact .inl ⟨phase, hold, hcarried⟩
  | release | exit | lapse | takeHandles | joinNext => exact .inl ⟨phase, hq, hcarried⟩

structure Conserved (p : Pool) : Prop where
  placed : p.places.Perm (List.range p.tasks.length)
  finished : ∀ task ∈ p.joined, p.isFinished task = true

theorem Conserved.step (hp : Conserved p) (h : Stepped p event q) : Conserved q := by
  constructor
  · rw [h.range_tasks]
    have hmade := (hp.placed.append_left (p.made event)).trans List.perm_append_comm
    exact h.places.trans hmade
  · intro task htask
    obtain hold | hfinished := h.mem_joined htask
    · exact h.finished (hp.finished task hold)
    · exact h.finished hfinished

theorem Reachable.conserved (hp : Reachable config p) : Conserved p := by
  apply hp.induction
  · exact ⟨.refl _, nofun⟩
  · intro p q event hp h
    exact hp.step h

/-- Nobody calls, and the handles that are not joined yet are with one join. -/
structure Vacated (k : Nat) (p : Pool) : Prop where
  calls : ∀ c ∈ p.calls, c.phase.isDone = true
  tracked : p.tracked = []
  joins : ∀ j held, p.joining[j]? = some held → j ≠ k → held = []

theorem Vacated.isDone (hp : Vacated k p) (h : p.phase? i = some phase) : phase.isDone = true := by
  obtain ⟨c, hc, rfl⟩ := Option.map_eq_some_iff.1 h
  exact hp.calls c (List.mem_of_getElem? hc)

theorem Vacated.step (hp : Vacated k p) (hcall : event.isCall = false) (h : Stepped p event q) :
    Vacated k q := by
  cases h with
  | call => cases hcall
  | permit h | deny h | create h | fail _ h | track h | lock h | keep h | takeOut h | push h
  | dispose h => cases hp.isDone h
  | wake hdue h => cases hp.isDone h
  | leave h => cases hp.isDone h
  | refuse h hlook | park h hlook | acquire h hlook =>
    have hdone := hp.isDone h
    rw [isDone_of_mayLook hlook] at hdone
    cases hdone
  | release | exit | lapse => exact ⟨hp.calls, hp.tracked, hp.joins⟩
  | takeHandles =>
    refine ⟨hp.calls, rfl, ?_⟩
    intro j held hheld hj
    obtain hold | ⟨-, rfl⟩ := of_getElem?_concat hheld
    · exact hp.joins j held hold hj
    · exact hp.tracked
  | @joinNext joiner task rest h =>
    refine ⟨hp.calls, hp.tracked, ?_⟩
    intro j held hheld hj
    obtain ⟨rfl, -⟩ | ⟨-, hold⟩ := of_getElem?_set hheld
    · cases hp.joins joiner (task :: rest) h hj
    · exact hp.joins j held hold hj

theorem IsOwned.vacated (hp : p.IsOwned) (h : ShutDown p q) : Vacated p.joining.length q := by
  induction h with
  | take h =>
    cases step_stepped h
    refine ⟨hp.calls, rfl, ?_⟩
    intro j held hheld hj
    obtain hold | ⟨hlast, -⟩ := of_getElem?_concat hheld
    · exact hp.joins held (List.mem_of_getElem? hold)
    · exact (hj hlast).elim
  | step event _ hcall h ih => exact ih.step hcall (step_stepped h)

theorem Stepped.over (h : Stepped p event q) (hover : p.joining[k]? = some []) :
    q.joining[k]? = some [] := by
  cases h with
  | takeHandles =>
    have hlt := (List.getElem?_eq_some_iff.1 hover).1
    exact (List.getElem?_append_left hlt).trans hover
  | joinNext h => exact getElem?_set_of_ne h hover nofun
  | _ => exact hover

theorem Vacated.tasks_eq (hp : Vacated k p) (h : Stepped p event q)
    (hfinished : ∀ task < p.tasks.length, p.isFinished task = true) : q.tasks = p.tasks := by
  have hend {task : Nat} {phase : TaskPhase} (h : p.tasks[task]? = some phase) :
      phase = .finished := by
    have hat := isFinished_iff.1 (hfinished task (List.getElem?_eq_some_iff.1 h).1)
    rw [h] at hat
    exact Option.some.inj hat
  cases h with
  | create h => cases hp.isDone h
  | release h => cases hend h
  | exit h => cases hend h
  | _ => rfl

theorem Reachable.shutDown (hp : Reachable config p) (h : ShutDown p q) : Reachable config q := by
  induction h with
  | take h => exact hp.step .takeHandles h
  | step event _ _ h ih => exact ih.step event h

theorem filterMap_of_done {g : CallPhase → Option Nat} (hg : ∀ result, g (.done result) = none)
    (hcalls : ∀ c ∈ p.calls, c.phase.isDone = true) : p.calls.filterMap (g ·.phase) = [] := by
  rw [List.filterMap_eq_nil_iff]
  intro c hc
  have hdone := hcalls c hc
  cases hphase : c.phase with
  | done result => exact hg result
  | _ =>
    rw [hphase] at hdone
    cases hdone

/-- Once the join that has all the handles is over, every one of them is joined. -/
theorem Vacated.places (hp : Vacated k p) (hover : p.joining[k]? = some []) :
    p.places = p.joined := by
  have hflat : p.joining.flatten = [] := by
    rw [List.flatten_eq_nil_iff]
    intro held hheld
    obtain ⟨j, hj⟩ := List.mem_iff_getElem?.1 hheld
    by_cases hjk : j = k
    · subst hjk
      rw [hover] at hj
      cases hj
      rfl
    · exact hp.joins j held hj hjk
  have huntracked : p.untracked = [] := filterMap_of_done (fun _ => rfl) hp.calls
  have hhand : p.inHand = [] := filterMap_of_done (fun _ => rfl) hp.calls
  rw [Pool.places, huntracked, hp.tracked, hhand, hflat]
  rfl

theorem Vacated.finished (hp : Vacated k p) (hreachable : Reachable config p)
    (hover : p.joining[k]? = some []) (htask : task < p.tasks.length) :
    p.isFinished task = true := by
  have hplaced := hreachable.conserved.placed
  rw [hp.places hover] at hplaced
  exact hreachable.conserved.finished task (hplaced.mem_iff.2 (List.mem_range.2 htask))

theorem Vacated.held (hp : Vacated k p)
    (hfinished : ∀ task < p.tasks.length, p.isFinished task = true) : p.held = 0 := by
  have hcalls : p.calls.countP Call.holdsSlot = 0 := by
    rw [List.countP_eq_zero]
    intro c hc hheld
    have hdone := hp.calls c hc
    rw [Call.holdsSlot] at hheld
    cases hphase : c.phase with
    | done => simp [hphase, CallPhase.holdsSlot] at hheld
    | _ =>
      rw [hphase] at hdone
      cases hdone
  have htasks : p.tasks.countP TaskPhase.holdsSlot = 0 := by
    rw [List.countP_eq_zero]
    intro phase hphase hheld
    obtain ⟨task, hlt, rfl⟩ := List.mem_iff_getElem.1 hphase
    have hend := isFinished_iff.1 (hfinished task hlt)
    rw [List.getElem?_eq_getElem hlt] at hend
    rw [Option.some.inj hend] at hheld
    cases hheld
  rw [Pool.held, hcalls, htasks]

/-- Every handle is at one place, and there once: with the call that started its task, among the tracked
ones, in the hand of a call that goes over these, with a join, or with those that were joined, whose tasks
are finished and which stay there. When whoever owns the pool has shut it down, all its tasks are finished
and no slot is taken. -/
theorem handles_accounted (hp : Reachable config p) :
    (p.untracked ++ p.tracked ++ p.inHand ++ p.joining.flatten ++ p.joined).Perm
      (List.range p.tasks.length) ∧
    (∀ task ∈ p.joined, p.isFinished task = true) ∧
    (∀ event q, p.step event = some q → p.joined <+: q.joined) ∧
    ∀ q, p.IsOwned → ShutDown p q → q.joining[p.joining.length]? = some [] →
      (∀ task < q.tasks.length, q.isFinished task = true) ∧ q.active = 0 := by
  refine ⟨hp.conserved.placed, hp.conserved.finished, ?_, ?_⟩
  · intro event q h
    exact (step_stepped h).joined_extends
  · intro q howned h hover
    have hq := hp.shutDown h
    have hvacated := howned.vacated h
    have hfinished : ∀ task < q.tasks.length, q.isFinished task = true := by
      intro task htask
      exact hvacated.finished hq hover htask
    exact ⟨hfinished, hq.balanced.counted.trans (hvacated.held hfinished)⟩

/-- The second call takes out the first handle while its own is not tracked yet; then the owner shuts the
pool down, before the second task has ended. -/
theorem handles_accounted_two_tasks : ∃ m p q : Pool,
    Reachable .unbounded m ∧ m.untracked = [1] ∧ m.inHand = [0] ∧
    (m.untracked ++ m.tracked ++ m.inHand ++ m.joining.flatten ++ m.joined).Perm (List.range 2) ∧
    Reachable .unbounded p ∧ p.tasks = [.finished, .running] ∧ p.IsOwned ∧ ShutDown p q ∧
    q.joining[p.joining.length]? = some [] ∧
    (∀ task < 2, q.isFinished task = true) ∧ q.active = 0 := by
  let m : Pool := ⟨.unbounded, 1, [⟨"a", .done (.ok 0)⟩, ⟨"b", .disposing 1 0 0⟩],
    [.finished, .running], 1, 0, [], [], []⟩
  let p : Pool := ⟨.unbounded, 1, [⟨"a", .done (.ok 0)⟩, ⟨"b", .done (.ok 1)⟩],
    [.finished, .running], 1, 0, [1], [], [0]⟩
  have hm : Reachable .unbounded m := Reachable.start.run [.call (some "a"), .ask 0 true,
    .look 0, .create 0 none, .lock 0, .inspect 0, .call (some "b"), .ask 1 true, .look 1,
    .create 1 none, .release 0, .exit 0, .lock 1, .inspect 1] rfl
  have hp : Reachable .unbounded p := hm.run [.dispose 1, .inspect 1] rfl
  have howned : p.IsOwned := ⟨by decide, nofun⟩
  have hq := (ShutDown.take (p := p) rfl).step (.release 1) rfl rfl |>.step (.exit 1) rfl rfl
    |>.step (.joinNext 0) rfl rfl
  obtain ⟨hplaced, -, -, -⟩ := handles_accounted hm
  obtain ⟨-, -, -, hover⟩ := handles_accounted hp
  obtain ⟨hfinished, hactive⟩ := hover _ howned hq rfl
  exact ⟨m, p, _, hm, rfl, rfl, hplaced, hp, rfl, howned, hq, rfl, hfinished, hactive⟩

end Pool

end Relay.Spawn
