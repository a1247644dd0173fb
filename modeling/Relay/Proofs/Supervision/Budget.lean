import Mathlib.Data.List.TakeWhile
import Relay.Proofs.Supervision.Confinement

namespace Relay.RestartBudget

/-- The answers to failures at the given readings: whether each of them is admitted. -/
def answers (strategy : RestartStrategy) (b : RestartBudget) : List Nat → List (Nat × Bool)
  | [] => []
  | now :: later =>
    let charged := b.charge strategy.window now
    (now, charged.admits strategy) :: answers strategy charged later

def admitted (answers : List (Nat × Bool)) : List Nat := (answers.filter Prod.snd).map Prod.fst

/-- Readings, cut into windows. A window is opened by its first reading, and ends before the next one
that exceeds it by more than the width. -/
def windows (width : Nat) : List Nat → List (List Nat)
  | [] => []
  | opening :: later =>
    (opening :: later.takeWhile (· ≤ opening + width)) ::
      windows width (later.dropWhile (· ≤ opening + width))
termination_by readings => readings.length
decreasing_by
  have hshorter := (List.dropWhile_suffix (l := later) (· ≤ opening + width)).length_le
  exact Nat.lt_succ_of_le hshorter

variable {strategy : RestartStrategy} {window : Duration} {b : RestartBudget}
  {width opening now n start : Nat} {readings inside rest : List Nat}

theorem le_of_mem_window (h : now ∈ readings.takeWhile (· ≤ opening + width)) :
    now ≤ opening + width := by
  simpa using List.mem_takeWhile_imp h

theorem charge_inside (h : now ≤ opening + window.nanos) :
    (⟨n, some opening⟩ : RestartBudget).charge window now = ⟨n + 1, some opening⟩ := by
  have hopen : (⟨n, some opening⟩ : RestartBudget).expired window now = false := by
    simp only [expired, decide_eq_false_iff_not]
    omega
  simp [charge, hopen]

theorem charge_outside (h : opening + window.nanos < now) :
    (⟨n, some opening⟩ : RestartBudget).charge window now = fresh.charge window now := by
  have hexpired : (⟨n, some opening⟩ : RestartBudget).expired window now = true := by
    simp only [expired, decide_eq_true_eq]
    omega
  rw [charge, if_pos hexpired]
  rfl

theorem answers_append (b : RestartBudget) (readings later : List Nat) :
    answers strategy b (readings ++ later) = answers strategy b readings ++
      answers strategy (readings.foldl (charge · strategy.window) b) later := by
  induction readings generalizing b with
  | nil => rfl
  | cons now readings ih => exact congrArg _ (ih _)

theorem foldl_charge_inside (h : ∀ now ∈ inside, now ≤ opening + window.nanos) (n : Nat) :
    inside.foldl (charge · window) ⟨n, some opening⟩ = ⟨n + inside.length, some opening⟩ := by
  induction inside generalizing n with
  | nil => rfl
  | cons now inside ih =>
    rw [List.foldl_cons, charge_inside (h now List.mem_cons_self),
      ih fun u hu => h u (List.mem_cons_of_mem now hu), List.length_cons]
    congr 1
    omega

theorem answers_inside (h : ∀ now ∈ inside, now ≤ opening + strategy.window.nanos) (n : Nat) :
    answers strategy ⟨n, some opening⟩ inside =
      inside.mapIdx fun i now => (now, decide (n + i < strategy.maxRestarts)) := by
  induction inside generalizing n with
  | nil => rfl
  | cons now inside ih =>
    rw [answers, charge_inside (h now List.mem_cons_self),
      ih fun u hu => h u (List.mem_cons_of_mem now hu), List.mapIdx_cons]
    congr 1
    simp only [Nat.add_assoc, Nat.add_comm 1]

theorem head_outside (h : now :: rest = readings.dropWhile (· ≤ opening + width)) :
    opening + width < now := by
  have hhead := List.head?_dropWhile_not (p := (· ≤ opening + width)) readings
  rw [← h] at hhead
  simpa using hhead

theorem answers_outside (n : Nat) :
    answers strategy ⟨n, some opening⟩ (readings.dropWhile (· ≤ opening + strategy.window.nanos)) =
      answers strategy fresh (readings.dropWhile (· ≤ opening + strategy.window.nanos)) := by
  cases h : readings.dropWhile (· ≤ opening + strategy.window.nanos) with
  | nil => rfl
  | cons now rest => simp only [answers, charge_outside (head_outside h.symm)]

/-- Within each window as many failures as the strategy allows are admitted, and then none. -/
theorem answers_fresh (strategy : RestartStrategy) (readings : List Nat) :
    answers strategy fresh readings = (windows strategy.window.nanos readings).flatMap fun readings =>
      readings.mapIdx fun i now => (now, decide (i < strategy.maxRestarts)) := by
  fun_induction windows strategy.window.nanos readings with
  | case1 => rfl
  | case2 opening later ih =>
    have hlater := congrArg (answers strategy ⟨1, some opening⟩)
      (List.takeWhile_append_dropWhile (p := (· ≤ opening + strategy.window.nanos)) (l := later))
    rw [answers_append, foldl_charge_inside fun _ => le_of_mem_window, answers_outside,
      answers_inside fun _ => le_of_mem_window, ih] at hlater
    rw [List.flatMap_cons, List.mapIdx_cons, List.cons_append]
    simp only [Nat.add_comm _ 1]
    rw [hlater]
    rfl

theorem foldl_charge_fresh (window : Duration) (readings : List Nat) :
    readings.foldl (charge · window) fresh = (windows window.nanos readings).getLast?.elim fresh
      fun last => { count := last.length, opened := last.head? } := by
  fun_induction windows window.nanos readings with
  | case1 => rfl
  | case2 opening later ih =>
    have hlater := congrArg (List.foldl (charge · window) { count := 1, opened := some opening })
      (List.takeWhile_append_dropWhile (p := (· ≤ opening + window.nanos)) (l := later))
    rw [List.foldl_append, foldl_charge_inside fun _ => le_of_mem_window] at hlater
    change later.foldl (charge · window) { count := 1, opened := some opening } = _
    rw [← hlater]
    cases hrest : later.dropWhile (· ≤ opening + window.nanos) with
    | nil => simp [windows, Nat.add_comm 1]
    | cons now rest =>
      rw [hrest] at ih
      rw [List.foldl_cons, charge_outside (head_outside hrest.symm), ← List.foldl_cons, ih]
      cases hmore : windows window.nanos (now :: rest) with
      | nil =>
        rw [windows] at hmore
        cases hmore
      | cons first more => rw [List.getLast?_cons_cons]

theorem admitted_window (max : Nat) (readings : List Nat) :
    admitted (readings.mapIdx fun i now => (now, decide (i < max))) = readings.take max := by
  induction readings generalizing max with
  | nil => simp [admitted]
  | cons now later ih =>
    cases max with
    | zero => simp [admitted, List.mapIdx_eq_zipIdx_map]
    | succ max =>
      have hlater := ih max
      simp only [admitted] at hlater ⊢
      simp [List.mapIdx_cons, hlater]

theorem admitted_answers (strategy : RestartStrategy) (readings : List Nat) :
    admitted (answers strategy fresh readings) =
      (windows strategy.window.nanos readings).flatMap (List.take strategy.maxRestarts) := by
  rw [answers_fresh, admitted, List.filter_flatMap, List.map_flatMap]
  exact List.flatMap_congr fun readings _ => admitted_window strategy.maxRestarts readings

/-- How many readings lie in the closed interval from `start` on that is as wide as a window. -/
def countWithin (width start : Nat) (readings : List Nat) : Nat :=
  readings.countP fun now => start ≤ now && now ≤ start + width

theorem countWithin_take_le (width start max : Nat) (readings : List Nat) :
    countWithin width start (readings.take max) ≤ max :=
  List.countP_le_length.trans (List.length_take_le max readings)

theorem countWithin_admitted_le (width start max : Nat) (readings : List Nat) :
    countWithin width start ((windows width readings).flatMap (List.take max)) ≤
      countWithin width start readings := by
  fun_induction windows width readings with
  | case1 => exact Nat.le_refl _
  | case2 opening later ih =>
    have hsplit : opening :: later = (opening :: later.takeWhile (· ≤ opening + width)) ++
        later.dropWhile (· ≤ opening + width) := by
      rw [List.cons_append, List.takeWhile_append_dropWhile]
    unfold countWithin at ih ⊢
    rw [hsplit, List.flatMap_cons, List.countP_append, List.countP_append]
    exact Nat.add_le_add (List.take_sublist max _).countP_le ih

theorem outside_of_mem (hsorted : readings.Pairwise (· ≤ ·))
    (h : now ∈ readings.dropWhile (· ≤ opening + width)) : opening + width < now := by
  cases hrest : readings.dropWhile (· ≤ opening + width) with
  | nil => simp [hrest] at h
  | cons first rest =>
    have hfirst := head_outside hrest.symm
    have hremaining := hsorted.sublist (List.dropWhile_sublist (· ≤ opening + width))
    rw [hrest] at h hremaining
    rcases List.mem_cons.1 h with rfl | h
    · exact hfirst
    · exact hfirst.trans_le ((List.pairwise_cons.1 hremaining).1 now h)

theorem countWithin_first_le (max : Nat) (hsorted : readings.Pairwise (· ≤ ·))
    (hstart : ∀ now ∈ readings.head?, start ≤ now) :
    countWithin width start ((windows width readings).flatMap (List.take max)) ≤ max := by
  cases readings with
  | nil => simp [windows, countWithin]
  | cons opening later =>
    have hopening : start ≤ opening := hstart opening rfl
    have hbeyond : countWithin width start (later.dropWhile (· ≤ opening + width)) = 0 := by
      apply List.countP_eq_zero.2
      intro now hnow
      have hoff := outside_of_mem (List.pairwise_cons.1 hsorted).2 hnow
      simp only [Bool.and_eq_true, decide_eq_true_eq]
      omega
    have hlater := countWithin_admitted_le width start max
      (later.dropWhile (· ≤ opening + width))
    have hfirst := countWithin_take_le width start max
      (opening :: later.takeWhile (· ≤ opening + width))
    rw [windows, List.flatMap_cons]
    unfold countWithin at *
    rw [List.countP_append]
    omega

/-- An interval that is as wide as a window meets the admitted readings of two windows at most. -/
theorem countWithin_le (max start : Nat) (hsorted : readings.Pairwise (· ≤ ·)) :
    countWithin width start ((windows width readings).flatMap (List.take max)) ≤ 2 * max := by
  fun_induction windows width readings with
  | case1 => exact Nat.zero_le _
  | case2 opening later ih =>
    rw [List.flatMap_cons, countWithin, List.countP_append]
    have hrestSorted : (later.dropWhile (· ≤ opening + width)).Pairwise (· ≤ ·) :=
      (List.pairwise_cons.1 hsorted).2.sublist (List.dropWhile_sublist _)
    have hfirst := countWithin_take_le width start max
      (opening :: later.takeWhile (· ≤ opening + width))
    by_cases hstart : ∀ now ∈ (later.dropWhile (· ≤ opening + width)).head?, start ≤ now
    · have hrest : countWithin width start ((windows width
          (later.dropWhile (· ≤ opening + width))).flatMap (List.take max)) ≤ max :=
        countWithin_first_le max hrestSorted hstart
      unfold countWithin at hfirst hrest
      omega
    · -- The interval begins after the next window is opened, so it misses this one.
      have hnone : countWithin width start
          ((opening :: later.takeWhile (· ≤ opening + width)).take max) = 0 := by
        push Not at hstart
        obtain ⟨next, hnext, hlate⟩ := hstart
        have hnext' := List.mem_of_mem_head? hnext
        have hoff := outside_of_mem (List.pairwise_cons.1 hsorted).2 hnext'
        apply List.countP_eq_zero.2
        intro now hnow
        have hnow' : now ≤ opening + width := by
          rcases List.mem_cons.1 (List.mem_of_mem_take hnow) with rfl | hin
          · exact Nat.le_add_right _ _
          · exact le_of_mem_window hin
        simp only [Bool.and_eq_true, decide_eq_true_eq]
        omega
      have hrest := ih hrestSorted
      unfold countWithin at hnone hrest
      omega

end Relay.RestartBudget

namespace Relay.Supervisor

open Supervision RestartBudget

variable {s : Supervisor}

/-- The failures that a history answers, in order: what the clock read, and whether the budget admitted
them. -/
def answered (s : Supervisor) : List Action → List (Nat × Bool)
  | [] => []
  | a :: earlier => s.answered earlier ++
    (((s.after earlier).reading? a).map fun now => (now, (s.after earlier).admitsAt now)).toList

/-- A history in which the count of failures is never started anew. -/
def Unreset (s : Supervisor) (history : List Action) : Prop :=
  ∀ a earlier, a :: earlier <:+ history → ¬ (s.after earlier).resetsBudget a

/-- Between two resets failures are answered by the budget, and nothing else reaches it. -/
theorem Unreset.answered_eq {history : List Action} (h : s.Unreset history) :
    (s.after history).strategy = s.strategy ∧
    (s.after history).budget =
      ((s.answered history).map Prod.fst).foldl (charge · s.strategy.window) s.budget ∧
    s.answered history = answers s.strategy s.budget ((s.answered history).map Prod.fst) := by
  induction history with
  | nil => exact ⟨rfl, rfl, rfl⟩
  | cons a earlier ih =>
    obtain ⟨hstrategy, hbudget, hanswered⟩ :=
      ih fun b older hsuffix => h b older (hsuffix.trans (List.suffix_cons a earlier))
    obtain ⟨hstrategy', hbudget'⟩ := act_budget (h a earlier (List.suffix_refl _))
    refine ⟨hstrategy'.trans hstrategy, ?_, ?_⟩
    · rw [after, hbudget']
      cases hreading : (s.after earlier).reading? a with
      | none => simp [answered, hreading, hbudget]
      | some now => simp [answered, hreading, charged, hstrategy, hbudget]
    · rw [answered, List.map_append, answers_append, ← hanswered, ← hbudget]
      cases hreading : (s.after earlier).reading? a with
      | none => rfl
      | some now => simp [answers, admitsAt, charged, hstrategy]

/-- An action that is no failure which is answered: a restart on request, a new child or dependency, or
the exit of an instance that is not listened to. -/
def sparesBudget (s : Supervisor) : Action → Prop
  | .restartChild _ _ | .register _ _ | .addDependency _ _ => True
  | .exit k _ _ _ => ∀ inst, s.instances[k]? = some inst → s.accepts inst = false
  | _ => False

theorem sparesBudget.budget {a : Action} (h : s.sparesBudget a) :
    (s.act a).budget = s.budget := by
  have hkeeps : ¬ s.resetsBudget a ∧ s.reading? a = none := by
    cases a with
    | exit k result now denied =>
      refine ⟨fun hreset => hreset, ?_⟩
      cases result with
      | ok => rfl
      | error failure =>
        cases hk : s.instances[k]? with
        | none => simp [reading?, hk]
        | some inst => simp [reading?, hk, h inst hk]
    | restartChild | register | addDependency => exact ⟨fun hreset => hreset, rfl⟩
    | _ => exact h.elim
  rw [(act_budget hkeeps.1).2, hkeeps.2]
  rfl

/-- The readings at which failures are answered fall into windows, each of which admits as many as the
strategy allows. So an interval as wide as a window holds at most twice as many, if the clock does not
fall. A history without resets answers its failures in this way, and other actions leave the budget as
it is. -/
theorem restarts_within_budget (strategy : RestartStrategy) (readings : List Nat) :
    answers strategy fresh readings =
      (windows strategy.window.nanos readings).flatMap (fun readings =>
        readings.mapIdx fun i now => (now, decide (i < strategy.maxRestarts))) ∧
    readings.foldl (charge · strategy.window) fresh =
      (windows strategy.window.nanos readings).getLast?.elim fresh
        (fun last => { count := last.length, opened := last.head? }) ∧
    (readings.Pairwise (· ≤ ·) → ∀ start,
      countWithin strategy.window.nanos start (admitted (answers strategy fresh readings)) ≤
        2 * strategy.maxRestarts) ∧
    (∀ (s : Supervisor) (history : List Action), s.strategy = strategy → s.budget = fresh →
      s.Unreset history → (s.answered history).map Prod.fst = readings →
      s.answered history = answers strategy fresh readings ∧
      (s.after history).budget = readings.foldl (charge · strategy.window) fresh) ∧
    ∀ (s : Supervisor) (history : List Action),
      (∀ a earlier, a :: earlier <:+ history → (s.after earlier).sparesBudget a) →
      (s.after history).budget = s.budget := by
  refine ⟨answers_fresh strategy readings, foldl_charge_fresh _ readings, ?_, ?_, ?_⟩
  · intro hsorted start
    rw [admitted_answers]
    exact countWithin_le _ start hsorted
  · rintro s history rfl hfresh hunreset rfl
    obtain ⟨-, hbudget, hanswered⟩ := hunreset.answered_eq
    rw [hfresh] at hbudget hanswered
    exact ⟨hanswered, hbudget⟩
  · intro s history hspares
    induction history with
    | nil => rfl
    | cons a earlier ih =>
      have hlast := (hspares a earlier (List.suffix_refl _)).budget
      exact hlast.trans (ih fun b older hsuffix =>
        hspares b older (hsuffix.trans (List.suffix_cons a earlier)))

/-- The clock falls back once, and the fifth failure is the first that is too late for the window. -/
theorem restarts_within_budget_two_windows :
    answers (.withBudget .standard 2 ⟨5⟩) fresh [3, 1, 8, 8, 9] =
      [(3, true), (1, true), (8, false), (8, false), (9, true)] ∧
    [3, 3, 8, 8, 9].Pairwise (· ≤ ·) ∧
    countWithin 5 4 (admitted (answers (.withBudget .standard 2 ⟨5⟩) fresh [3, 3, 8, 8, 9])) ≤ 4 ∧
    ∃ s, create "sup" = .ok s ∧
      let t := s.after [.start noDenials, .register ⟨"a", none⟩ noDenials]
      let history : List Action :=
        [.restartChild 0 noDenials, .reportFailure 0 (.ofMessage "boom") 7 noDenials]
      t.Unreset history ∧ t.answered history = [(7, true)] := by
  have hsorted : [3, 3, 8, 8, 9].Pairwise (· ≤ ·) := by decide
  obtain ⟨hwindows, -, -, -, -⟩ :=
    restarts_within_budget (.withBudget .standard 2 ⟨5⟩) [3, 1, 8, 8, 9]
  obtain ⟨-, -, hcount, -, -⟩ :=
    restarts_within_budget (.withBudget .standard 2 ⟨5⟩) [3, 3, 8, 8, 9]
  obtain ⟨hone, -, -, hhistory, -⟩ := restarts_within_budget .standard [7]
  have hunreset (s : Supervisor) : s.Unreset [.restartChild 0 noDenials,
      .reportFailure 0 (.ofMessage "boom") 7 noDenials] := by
    intro a earlier hsuffix
    have ha := hsuffix.subset List.mem_cons_self
    simp only [List.mem_cons, List.not_mem_nil, or_false] at ha
    rcases ha with rfl | rfl <;> exact fun hreset => hreset
  have hcreated : create "sup" = .ok _ := rfl
  refine ⟨hwindows.trans (by decide +kernel), hsorted, hcount hsorted 4, _, hcreated, hunreset _, ?_⟩
  exact (hhistory _ _ rfl rfl (hunreset _) rfl).1.trans (hone.trans (by decide +kernel))

end Relay.Supervisor
