import Mathlib.Data.List.Find
import Mathlib.Data.List.Induction
import Mathlib.Data.List.Nodup
import Mathlib.Data.List.Perm.Subperm
import Relay.Parallel.Crew
import Relay.Proofs.Parallel.Sums

namespace Relay.FanOut

variable {β : Type} {pool : Pool} {f : Nat → β × Ending} {c d : Crew β} {event : Event} {id : Nat}
  {ending : Ending}

namespace Progress

variable {p : Progress β}

def callers (p : Progress β) : List Nat := p.calls.map (·.1)

def leavers (p : Progress β) : List Nat := p.ended.map (·.1)

theorem hasCalled_iff : p.hasCalled id = true ↔ id ∈ p.callers := by
  simp [hasCalled, callers]

theorem ending?_eq_none_iff : p.ending? id = none ↔ id ∉ p.leavers := by
  simp only [ending?, leavers, Option.map_eq_none_iff, List.find?_eq_none, decide_eq_true_eq,
    List.mem_map, not_exists, not_and]

theorem mem_of_ending? (h : p.ending? id = some ending) : (id, ending) ∈ p.ended := by
  obtain ⟨entry, hfind, rfl⟩ := Option.map_eq_some_iff.1 h
  have hid : entry.1 = id := by simpa using List.find?_some hfind
  exact hid ▸ List.mem_of_find?_eq_some hfind

theorem callers_call (p : Progress β) (id : Nat) (value : β) :
    (p.call id value).callers = p.callers ++ [id] := by
  simp [callers, call]

theorem leavers_finish (p : Progress β) (id : Nat) (ending : Ending) :
    (p.finish id ending).leavers = p.leavers ++ [id] := by
  simp [leavers, finish]

end Progress

namespace Crew

inductive Stepped (pool : Pool) (f : Nat → β × Ending) (c : Crew β) : Event → Crew β → Prop
  | create (h : c.isCreating pool = true) :
    Stepped pool f c (.create none) { c with created := c.created + 1 }
  | lack (cause : String) (h : c.isCreating pool = true) :
    Stepped pool f c (.create (some cause)) { c with noThread := some cause }
  | call {id : Nat} (hcreated : id < c.created) (hnew : id ∉ c.progress.callers) :
    Stepped pool f c (.call id) { c with progress := c.progress.call id (f id).1 }
  | finish {id : Nat} (hcalled : id ∈ c.progress.callers) (hruns : id ∉ c.progress.leavers) :
    Stepped pool f c (.finish id) { c with progress := c.progress.finish id (f id).2 }
  | join {ending : Ending} (hall : c.isCreating pool = false) (hnext : c.joined < c.created)
    (hended : c.progress.ending? c.joined = some ending) :
    Stepped pool f c .join { c with joined := c.joined + 1, panicked := c.panickedWith ending }
  | conclude (hall : c.isCreating pool = false) (hjoined : c.created ≤ c.joined)
    (hopen : c.result = none) : Stepped pool f c .conclude { c with result := some c.verdict }

theorem step_eq_some_iff : c.step pool f event = some d ↔ Stepped pool f c event d := by
  constructor
  · intro h
    cases event with
    | create failure =>
      simp only [step] at h
      split at h
      · rename_i hcreating
        cases failure with
        | none =>
          cases h
          exact .create hcreating
        | some cause =>
          cases h
          exact .lack cause hcreating
      · cases h
    | call id =>
      simp only [step] at h
      split at h
      · rename_i hguard
        cases h
        simp only [Bool.and_eq_true, decide_eq_true_eq, Bool.not_eq_true', ← Bool.not_eq_true,
          Progress.hasCalled_iff] at hguard
        exact .call hguard.1 hguard.2
      · cases h
    | finish id =>
      simp only [step] at h
      split at h
      · rename_i hguard
        cases h
        simp only [Bool.and_eq_true, Option.isNone_iff_eq_none, Progress.hasCalled_iff,
          Progress.ending?_eq_none_iff] at hguard
        exact .finish hguard.1 hguard.2
      · cases h
    | join =>
      simp only [step] at h
      split at h
      · rename_i hguard
        simp only [Bool.and_eq_true, Bool.not_eq_true', decide_eq_true_eq] at hguard
        obtain ⟨ending, hended, rfl⟩ := Option.map_eq_some_iff.1 h
        exact .join hguard.1 hguard.2 hended
      · cases h
    | conclude =>
      simp only [step] at h
      split at h
      · rename_i hguard
        cases h
        simp only [Bool.and_eq_true, Bool.not_eq_true', decide_eq_true_eq,
          Option.isNone_iff_eq_none] at hguard
        exact .conclude hguard.1.1 hguard.1.2 hguard.2
      · cases h
  · intro h
    cases h with
    | create h => simp only [step, h, if_true]
    | lack cause h => simp only [step, h, if_true]
    | call hcreated hnew =>
      have hguard := mt Progress.hasCalled_iff.1 hnew
      simp [step, hcreated, hguard]
    | finish hcalled hruns =>
      simp [step, Progress.hasCalled_iff.2 hcalled, Progress.ending?_eq_none_iff.2 hruns]
    | join hall hnext hended => simp [step, hall, hnext, hended]
    | conclude hall hjoined hopen => simp [step, hall, hjoined, hopen]

def firstPanic? (f : Nat → β × Ending) (n : Nat) : Option Nat :=
  (List.range n).find? fun id => (f id).2 = .panicked

theorem firstPanic?_succ (n : Nat) : firstPanic? f (n + 1) =
    (firstPanic? f n).or (if (f n).2 = .panicked then some n else none) := by
  rw [firstPanic?, List.range_succ, List.find?_append, List.find?_singleton]
  simp [firstPanic?]

theorem ne_panicked_iff {ending : Ending} : ending ≠ .panicked ↔ ending = .returned := by
  cases ending <;> simp

theorem firstPanic?_eq_none_iff {n : Nat} :
    firstPanic? f n = none ↔ ∀ id < n, (f id).2 = .returned := by
  simp [firstPanic?, ne_panicked_iff]

theorem firstPanic?_eq_some_iff {n : Nat} : firstPanic? f n = some id ↔
    id < n ∧ (f id).2 = .panicked ∧ ∀ other < id, (f other).2 = .returned := by
  simp [firstPanic?, ne_panicked_iff, and_left_comm]

/-- What holds throughout: workers call and end once, as the function has it, and the caller is behind them. -/
structure Sound (pool : Pool) (f : Nat → β × Ending) (c : Crew β) : Prop where
  created : c.created + c.noThread.isSome.toNat ≤ pool.workers
  called : ∀ entry ∈ c.progress.calls, entry.1 < c.created ∧ entry.2 = (f entry.1).1
  calledOnce : c.progress.callers.Nodup
  ended : ∀ entry ∈ c.progress.ended, entry.1 ∈ c.progress.callers ∧ entry.2 = (f entry.1).2
  endedOnce : c.progress.leavers.Nodup
  behind : c.joined ≤ c.created
  joined : ∀ id < c.joined, id ∈ c.progress.leavers
  panicked : c.panicked = firstPanic? f c.joined
  concluded : ∀ result, c.result = some result →
    c.isCreating pool = false ∧ c.created ≤ c.joined ∧ result = c.verdict

theorem isCreating_iff : c.isCreating pool = true ↔ c.created < pool.workers ∧ c.noThread = none := by
  simp [isCreating]

theorem Sound.start : Sound pool f (Crew.start : Crew β) where
  created := Nat.zero_le _
  called := nofun
  calledOnce := List.nodup_nil
  ended := nofun
  endedOnce := List.nodup_nil
  behind := Nat.le_refl 0
  joined := nofun
  panicked := rfl
  concluded := nofun

theorem Sound.result_eq_none (h : Sound pool f c) (hcreating : c.isCreating pool = true) :
    c.result = none := by
  cases hresult : c.result with
  | none => rfl
  | some result =>
    have hnot := (h.concluded result hresult).1
    rw [hcreating] at hnot
    cases hnot

theorem panickedWith_eq (h : c.panicked = firstPanic? f c.joined) :
    c.panickedWith (f c.joined).2 = firstPanic? f (c.joined + 1) := by
  rw [firstPanic?_succ, ← h]
  cases hending : (f c.joined).2 with
  | returned => simp [panickedWith]
  | panicked => simp [panickedWith]

theorem Stepped.sound (h : Stepped pool f c event d) (hc : Sound pool f c) : Sound pool f d := by
  cases h with
  | create h =>
    obtain ⟨hroom, hthreads⟩ := isCreating_iff.1 h
    have hopen := hc.result_eq_none h
    refine { hc with created := ?_, called := ?_, behind := ?_, concluded := ?_ }
    · simpa [hthreads] using Nat.succ_le_of_lt hroom
    · intro entry hentry
      obtain ⟨hid, hvalue⟩ := hc.called entry hentry
      exact ⟨Nat.lt_succ_of_lt hid, hvalue⟩
    · exact Nat.le_succ_of_le hc.behind
    · intro result hresult
      cases hopen.symm.trans hresult
  | lack cause h =>
    obtain ⟨hroom, -⟩ := isCreating_iff.1 h
    have hopen := hc.result_eq_none h
    refine { hc with created := hroom, concluded := ?_ }
    intro result hresult
    cases hopen.symm.trans hresult
  | @call id hcreated hnew =>
    refine { hc with called := ?_, calledOnce := ?_, ended := ?_ }
    · intro entry hentry
      obtain hold | rfl := List.mem_append.1 hentry |>.imp_right List.mem_singleton.1
      · exact hc.called entry hold
      · exact ⟨hcreated, rfl⟩
    · rw [Progress.callers_call, ← List.concat_eq_append]
      exact hc.calledOnce.concat hnew
    · intro entry hentry
      obtain ⟨hcaller, hvalue⟩ := hc.ended entry hentry
      rw [Progress.callers_call]
      exact ⟨List.mem_append_left _ hcaller, hvalue⟩
  | @finish id hcalled hruns =>
    refine { hc with ended := ?_, endedOnce := ?_, joined := ?_ }
    · intro entry hentry
      obtain hold | rfl := List.mem_append.1 hentry |>.imp_right List.mem_singleton.1
      · exact hc.ended entry hold
      · exact ⟨hcalled, rfl⟩
    · rw [Progress.leavers_finish, ← List.concat_eq_append]
      exact hc.endedOnce.concat hruns
    · intro other hother
      rw [Progress.leavers_finish]
      exact List.mem_append_left _ (hc.joined other hother)
  | @join ending hall hnext hended =>
    have hmem := Progress.mem_of_ending? hended
    obtain rfl : ending = (f c.joined).2 := (hc.ended _ hmem).2
    refine { hc with behind := hnext, joined := ?_, panicked := ?_, concluded := ?_ }
    · intro id hid
      obtain hlt | rfl := Nat.lt_succ_iff_lt_or_eq.1 hid
      · exact hc.joined id hlt
      · exact List.mem_map.2 ⟨_, hmem, rfl⟩
    · exact panickedWith_eq hc.panicked
    · intro result hresult
      have hdone := (hc.concluded result hresult).2.1
      exact absurd hnext (Nat.not_lt_of_le hdone)
  | conclude hall hjoined hopen =>
    refine { hc with concluded := ?_ }
    rintro result ⟨⟩
    exact ⟨hall, hjoined, rfl⟩

def age (c : Crew β) : Nat :=
  c.created + c.noThread.isSome.toNat + c.progress.calls.length + c.progress.ended.length + c.joined +
    c.result.isSome.toNat

theorem Stepped.age (h : Stepped pool f c event d) : d.age = c.age + 1 := by
  cases h with
  | create =>
    simp only [Crew.age]
    omega
  | lack cause h =>
    simp only [Crew.age, (isCreating_iff.1 h).2, Option.isSome_none, Option.isSome_some, Bool.toNat_true,
      Bool.toNat_false]
    omega
  | call =>
    simp only [Crew.age, Progress.call, List.length_append, List.length_singleton]
    omega
  | finish =>
    simp only [Crew.age, Progress.finish, List.length_append, List.length_singleton]
    omega
  | join =>
    simp only [Crew.age]
    omega
  | conclude _ _ hopen =>
    simp only [Crew.age, hopen, Option.isSome_none, Option.isSome_some, Bool.toNat_true, Bool.toNat_false]

theorem Sound.age_le (h : Sound pool f c) : c.age ≤ 4 * pool.workers + 1 := by
  have hcallers : c.progress.callers ⊆ List.range c.created := by
    intro id hid
    obtain ⟨entry, hentry, rfl⟩ := List.mem_map.1 hid
    exact List.mem_range.2 (h.called entry hentry).1
  have hleavers : c.progress.leavers ⊆ c.progress.callers := by
    intro id hid
    obtain ⟨entry, hentry, rfl⟩ := List.mem_map.1 hid
    exact (h.ended entry hentry).1
  have hcalls := (h.calledOnce.subperm hcallers).length_le
  have hended := (h.endedOnce.subperm hleavers).length_le
  rw [Progress.callers, List.length_map, List.length_range] at hcalls
  rw [Progress.leavers, Progress.callers, List.length_map, List.length_map] at hended
  have hresult := Bool.toNat_le c.result.isSome
  have hcreated := h.created
  have hbehind := h.behind
  unfold age
  omega

/-- A fan-out whose caller waits for a result goes on, without a thread failing. -/
theorem exists_step (hopen : c.result = none) :
    ∃ event d, c.step pool f event = some d ∧ d.noThread = c.noThread := by
  cases hcreating : c.isCreating pool with
  | true => exact ⟨_, _, step_eq_some_iff.2 (.create hcreating), rfl⟩
  | false =>
    by_cases hnext : c.joined < c.created
    · cases hended : c.progress.ending? c.joined with
      | some ending => exact ⟨_, _, step_eq_some_iff.2 (.join hcreating hnext hended), rfl⟩
      | none =>
        have hruns := Progress.ending?_eq_none_iff.1 hended
        by_cases hcalled : c.joined ∈ c.progress.callers
        · exact ⟨_, _, step_eq_some_iff.2 (.finish hcalled hruns), rfl⟩
        · exact ⟨_, _, step_eq_some_iff.2 (.call hnext hcalled), rfl⟩
    · exact ⟨_, _, step_eq_some_iff.2 (.conclude hcreating (Nat.le_of_not_lt hnext) hopen), rfl⟩

theorem Sound.run (hc : Sound pool f c) {events : List Event} (h : c.run pool f events = some d) :
    Sound pool f d ∧ d.age = c.age + events.length := by
  induction events generalizing c with
  | nil =>
    cases h
    exact ⟨hc, rfl⟩
  | cons event events ih =>
    obtain ⟨e, he, hrest⟩ := Option.bind_eq_some_iff.1 h
    have hstepped := step_eq_some_iff.1 he
    obtain ⟨hd, hage⟩ := ih (hstepped.sound hc) hrest
    refine ⟨hd, ?_⟩
    rw [hage, hstepped.age, List.length_cons]
    omega

theorem Sound.ending? (h : Sound pool f c) (hid : id ∈ c.progress.leavers) :
    c.progress.ending? id = some (f id).2 := by
  cases hending : c.progress.ending? id with
  | none => exact absurd hid (Progress.ending?_eq_none_iff.1 hending)
  | some ending => exact congrArg some (h.ended _ (Progress.mem_of_ending? hending)).2

theorem Sound.all_joined {result : Except Failure Unit} (h : Sound pool f c)
    (hthreads : c.noThread = none) (hresult : c.result = some result) : c.joined = pool.workers := by
  obtain ⟨hall, hdone, -⟩ := h.concluded result hresult
  have hcreated : ¬ c.created < pool.workers := fun hlt => by
    rw [isCreating_iff.2 ⟨hlt, hthreads⟩] at hall
    cases hall
  have hroom := h.created
  have hbehind := h.behind
  omega

theorem Sound.calls_perm (h : Sound pool f c) (hjoined : c.joined = pool.workers) :
    c.progress.calls.Perm ((List.range pool.workers).map fun id => (id, (f id).1)) := by
  have honce : ((List.range pool.workers).map fun id => (id, (f id).1)).Nodup :=
    List.Nodup.of_map Prod.fst (by simpa [Function.comp_def] using List.nodup_range)
  refine (List.perm_ext_iff_of_nodup (List.Nodup.of_map Prod.fst h.calledOnce) honce).2 ?_
  rintro ⟨id, value⟩
  constructor
  · intro hcall
    obtain ⟨hid, hvalue⟩ := h.called _ hcall
    have hlt : id < pool.workers := hid.trans_le (Nat.le_of_add_right_le h.created)
    exact List.mem_map.2 ⟨id, List.mem_range.2 hlt, congrArg (Prod.mk id) hvalue.symm⟩
  · intro hexpected
    obtain ⟨id, hid, ⟨⟩⟩ := List.mem_map.1 hexpected
    obtain ⟨entry, hentry, rfl⟩ := List.mem_map.1 (h.joined id (hjoined ▸ List.mem_range.1 hid))
    obtain ⟨call, hcall, hcaller⟩ := List.mem_map.1 (h.ended entry hentry).1
    have hvalue : call = (entry.1, (f entry.1).1) :=
      Prod.ext hcaller (hcaller ▸ (h.called call hcall).2)
    exact hvalue ▸ hcall

end Crew

theorem progress_concat (f : Nat → β × Ending) (order : List Nat) (id : Nat) : progress f (order ++ [id]) =
    ((progress f order).call id (f id).1).finish id (f id).2 := by
  rw [progress, List.foldl_append]
  rfl

theorem progress_eq (f : Nat → β × Ending) (order : List Nat) : progress f order =
    ⟨order.map fun id => (id, (f id).1), order.map fun id => (id, (f id).2)⟩ := by
  induction order using List.reverseRecOn with
  | nil => rfl
  | append_singleton order id ih =>
    rw [progress_concat, ih, List.map_append, List.map_append]
    rfl

theorem ending?_progress {order : List Nat} (h : id ∈ order) :
    (progress f order).ending? id = some (f id).2 := by
  cases hending : (progress f order).ending? id with
  | none =>
    have hleavers : (progress f order).leavers = order := by
      simp [progress_eq, Progress.leavers, Function.comp_def]
    rw [← hleavers] at h
    exact absurd h (Progress.ending?_eq_none_iff.1 hending)
  | some ending =>
    have hmem := Progress.mem_of_ending? hending
    rw [progress_eq] at hmem
    obtain ⟨_, -, ⟨⟩⟩ := List.mem_map.1 hmem
    rfl

theorem firstPanic?_progress (f : Nat → β × Ending) (n : Nat) :
    (progress f (List.range n)).firstPanic? n = Crew.firstPanic? f n := by
  refine List.find?_congr fun id hid => ?_
  simp [ending?_progress hid]

/-- All workers joined, the caller is told what it is told when they run one after the other. -/
theorem Crew.Sound.verdict_eq (h : Sound pool f c) (hthreads : c.noThread = none)
    (hjoined : c.joined = pool.workers) : c.verdict = (pool.run f).2.mapError .failed := by
  simp only [Pool.run, Progress.joined, firstPanic?_progress, Crew.verdict, hthreads, h.panicked, hjoined]
  cases Crew.firstPanic? f pool.workers with
  | none => rfl
  | some id => rfl

theorem run_eq_ok_iff : (pool.run f).2 = .ok () ↔ ∀ id < pool.workers, (f id).2 = .returned := by
  rw [← Crew.firstPanic?_eq_none_iff]
  simp only [Pool.run, Progress.joined, firstPanic?_progress]
  cases Crew.firstPanic? f pool.workers <;> simp

theorem run_eq_error_iff {e : Error} : (pool.run f).2 = .error e ↔ ∃ id, e = .workerPanicked id ∧
    id < pool.workers ∧ (f id).2 = .panicked ∧ ∀ other < id, (f other).2 = .returned := by
  simp only [← Crew.firstPanic?_eq_some_iff, Pool.run, Progress.joined, firstPanic?_progress]
  cases Crew.firstPanic? f pool.workers <;> simp [eq_comm]

theorem mapError_eq_ok_iff {result : Except Error Unit} :
    result.mapError Failure.failed = .ok () ↔ result = .ok () := by
  cases result <;> simp [Except.mapError]

theorem mapError_eq_error_iff {result : Except Error Unit} {failure : Failure} :
    result.mapError .failed = .error failure ↔ ∃ e, result = .error e ∧ failure = .failed e := by
  cases result <;> simp [Except.mapError, eq_comm]

theorem wrappingSum_calls {calls : List (Nat × β)} {items : List Int64} {sum : β → Int64}
    (hcalls : calls.Perm ((List.range pool.workers).map fun id => (id, (f id).1)))
    (hitems : items.length < UInt64.size) (hworkers : pool.workers < UInt64.size)
    (hsum : ∀ id < pool.workers, sum (f id).1 = wrappingSum
      ((partition (.ofNat items.length) (.ofNat id) (.ofNat pool.workers)).slice items)) :
    wrappingSum (calls.map fun call => sum call.2) = wrappingSum items := by
  have hsums : ∀ id ∈ List.range pool.workers, sum (f id).1 = wrappingSum
      ((partition (.ofNat items.length) (.ofNat id) (.ofNat pool.workers)).slice items) :=
    fun id hid => hsum id (List.mem_range.1 hid)
  rw [wrappingSum_perm (hcalls.map fun call => sum call.2), List.map_map, Function.comp_def,
    List.map_congr_left hsums, wrappingSum_map_wrappingSum,
    flatMap_slice_partition items hitems hworkers pool.workers_pos]

/-- What a fan-out comes to, if no thread fails to be created. It goes on until the caller is told a result,
after no more than four events for each worker. By then each worker has called the function once and has
ended, whatever the order was, and the result is that of a fan-out whose workers run one after the other: the
least of the workers that panicked, if any did. And if each worker sums its piece of some items, as many as
64 bits can count, the sum of these sums is the sum of the items. -/
theorem schedule_independent {schedule : List Event} (hrun : Crew.start.run pool f schedule = some c)
    (hthreads : c.noThread = none) :
    schedule.length ≤ 4 * pool.workers + 1 ∧
    (c.result = none → ∃ event d, c.step pool f event = some d ∧ d.noThread = none) ∧
    ∀ result, c.result = some result →
      c.progress.calls.Perm ((List.range pool.workers).map fun id => (id, (f id).1)) ∧
      (∀ id < pool.workers, c.progress.ending? id = some (f id).2) ∧
      result = (pool.run f).2.mapError .failed ∧
      (result = .ok () ↔ ∀ id < pool.workers, (f id).2 = .returned) ∧
      (∀ failure, result = .error failure ↔ ∃ id, failure = .failed (.workerPanicked id) ∧
        id < pool.workers ∧ (f id).2 = .panicked ∧ ∀ other < id, (f other).2 = .returned) ∧
      ∀ (items : List Int64) (sum : β → Int64), items.length < UInt64.size →
        pool.workers < UInt64.size →
        (∀ id < pool.workers, sum (f id).1 = wrappingSum
          ((partition (.ofNat items.length) (.ofNat id) (.ofNat pool.workers)).slice items)) →
        wrappingSum (c.progress.calls.map fun call => sum call.2) = wrappingSum items := by
  obtain ⟨hsound, hage⟩ := Crew.Sound.start.run hrun
  have hstart : (Crew.start : Crew β).age = 0 := rfl
  refine ⟨?_, ?_, ?_⟩
  · have hle := hsound.age_le
    omega
  · intro hopen
    obtain ⟨event, d, hstep, hsame⟩ := Crew.exists_step hopen
    exact ⟨event, d, hstep, hsame.trans hthreads⟩
  · intro result hresult
    have hjoined := hsound.all_joined hthreads hresult
    have hcalls := hsound.calls_perm hjoined
    obtain ⟨-, -, hverdict⟩ := hsound.concluded result hresult
    rw [hsound.verdict_eq hthreads hjoined] at hverdict
    refine ⟨hcalls, ?_, hverdict, ?_, ?_, ?_⟩
    · intro id hid
      exact hsound.ending? (hsound.joined id (hjoined ▸ hid))
    · rw [hverdict, mapError_eq_ok_iff, run_eq_ok_iff]
    · intro failure
      rw [hverdict, mapError_eq_error_iff]
      constructor
      · rintro ⟨e, he, rfl⟩
        obtain ⟨id, rfl, hleast⟩ := run_eq_error_iff.1 he
        exact ⟨id, rfl, hleast⟩
      · rintro ⟨id, rfl, hleast⟩
        exact ⟨_, run_eq_error_iff.2 ⟨id, rfl, hleast⟩, rfl⟩
    · intro items sum hitems hworkers hsum
      exact wrappingSum_calls hcalls hitems hworkers hsum

/-- Three workers, of which the last is the first to run and two panic, and a sum that overflows. -/
theorem schedule_independent_two_panics : ∃ c : Crew PartialSum,
    Crew.start.run ⟨3, by decide⟩ (sumWorker [9223372036854775807, 1, -5, 7] 3 [2, 1])
      [.create none, .create none, .create none, .call 2, .call 0, .finish 2, .call 1, .finish 1, .finish 0,
        .join, .join, .join, .conclude] = some c ∧
    c.noThread = none ∧ c.result = some (.error (.failed (.workerPanicked 1))) ∧
    (∀ id < 3, c.progress.ending? id = some (sumWorker [9223372036854775807, 1, -5, 7] 3 [2, 1] id).2) ∧
    wrappingSum (c.progress.calls.map fun call => call.2.sum) = -9223372036854775806 := by
  have hends : (Crew.start.run ⟨3, by decide⟩ (sumWorker [9223372036854775807, 1, -5, 7] 3 [2, 1])
      [.create none, .create none, .create none, .call 2, .call 0, .finish 2, .call 1, .finish 1, .finish 0,
        .join, .join, .join, .conclude]).any (fun c => c.noThread.isNone && c.result.any
          (· = .error (.failed (.workerPanicked 1)))) = true := by
    decide +kernel
  obtain ⟨c, hrun, hends⟩ := (Option.any_eq_true _ _).1 hends
  obtain ⟨hthreads, hresult⟩ := (Bool.and_eq_true _ _).mp hends
  obtain ⟨result, hresult, htold⟩ := (Option.any_eq_true _ _).1 hresult
  obtain rfl := of_decide_eq_true htold
  have hnone := Option.isNone_iff_eq_none.1 hthreads
  obtain ⟨-, -, hlast⟩ := schedule_independent hrun hnone
  obtain ⟨-, hended, -, -, -, hsums⟩ := hlast _ hresult
  have hsum := hsums [9223372036854775807, 1, -5, 7] (·.sum) (by decide) (by decide) fun _ _ => rfl
  exact ⟨c, hrun, hnone, hresult, hended, hsum.trans (by decide)⟩

end Relay.FanOut
