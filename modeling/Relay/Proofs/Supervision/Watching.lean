import Relay.Proofs.Supervision.Nesting

namespace Relay.Supervision.Activity

def hasBegun : Activity → Bool
  | .watching | .stopping _ | .joining .. => true
  | _ => false

def escalates : Activity → Bool
  | .stopping escalated | .joining escalated _ => escalated
  | _ => false

/-- Whether an instance is to end because it was signalled. -/
def isDismissed : Activity → Bool
  | .stopping escalated | .joining escalated _ => !escalated
  | _ => false

theorem not_hasBegun_of_isFirst {a : Activity} (h : a.isFirst = true) : a.hasBegun = false := by
  cases a <;> first | rfl | cases h

theorem not_escalates_of_isFirst {a : Activity} (h : a.isFirst = true) : a.escalates = false := by
  cases a <;> first | rfl | cases h

theorem not_isDismissed_of_isFirst {a : Activity} (h : a.isFirst = true) :
    a.isDismissed = false := by
  cases a <;> first | rfl | cases h

end Relay.Supervision.Activity

namespace Relay.Forest

open Supervision

variable {f : Forest} {p q k n : Nat} {s m : Supervisor} {inst : Instance} {a : Move}
  {earlier history : List Move}

/-- A kind of step, told from the instance that takes it, the supervisor that this runs, and the
threads that are denied to that. -/
abbrev Kind := Instance → Supervisor → Supervisor.Denials → Prop

def begins : Kind := fun inst m denied => inst.activity = .starting ∧ (m.start denied).1 = .ok ()

/-- The instance, which was not signalled, finds its supervisor degraded, and that one escalates. -/
def observes : Kind := fun inst m _ =>
  inst.activity = .watching ∧ inst.signalled = false ∧ m.escalates = true ∧ m.status = .degraded

def stops (answer : Supervisor.Stopping) : Kind := fun inst m _ =>
  inst.activity = .stopping true ∧ m.beginStop.1 = .ok answer

def ends : Kind := fun inst m denied => ∃ result, next? inst m denied = some (.ended result)

def proceeds : Kind := fun inst m denied => next? inst m denied ≠ none

/-- After a history, a move is a step of some kind of the instance `k` of `p`, which runs `n`. -/
def Does (kind : Kind) (p k n : Nat) (earlier : List Move) (a : Move) : Prop :=
  ∃ now denied s inst m, a = .run p k now denied ∧ (after earlier).Runs p k n s inst m ∧
    kind inst m (denied n)

/-- The instance `k` of `p`, which runs `n`, took a step of some kind after the beginning `earlier`
of a history. -/
def StepIn (kind : Kind) (p k n : Nat) (earlier history : List Move) : Prop :=
  ∃ a, a :: earlier <:+ history ∧ Does kind p k n earlier a

/-- The instance took a step of some kind. -/
def Did (kind : Kind) (p k n : Nat) (history : List Move) : Prop :=
  ∃ earlier, StepIn kind p k n earlier history

variable {kind : Kind}

theorem did_cons : Did kind p k n (a :: history) ↔
    Did kind p k n history ∨ Does kind p k n history a := by
  constructor
  · rintro ⟨earlier, b, hsuffix, hdoes⟩
    rcases List.suffix_cons_iff.1 hsuffix with heq | hsuffix
    · obtain ⟨rfl, rfl⟩ := List.cons.inj heq
      exact .inr hdoes
    · exact .inl ⟨earlier, b, hsuffix, hdoes⟩
  · rintro (⟨earlier, b, hsuffix, hdoes⟩ | hdoes)
    · exact ⟨earlier, b, hsuffix.trans (List.suffix_cons a history), hdoes⟩
    · exact ⟨history, a, List.suffix_rfl, hdoes⟩

theorem Runs.unique {n' : Nat} {s' m' : Supervisor} {inst' : Instance} (h : f.Runs p k n s inst m)
    (h' : f.Runs p k n' s' inst' m') : n = n' ∧ s = s' ∧ inst = inst' ∧ m = m' := by
  have hs := h.parent.symm.trans h'.parent
  cases hs
  have hinst := h.number.symm.trans h'.number
  cases hinst
  have hn := h.task.symm.trans h'.task
  cases hn
  have hm := h.nested.symm.trans h'.nested
  cases hm
  exact ⟨rfl, rfl, rfl, rfl⟩

theorem does_iff (h : (after earlier).Runs p k n s inst m) {now : Nat} {denied : Denials} :
    Does kind p k n earlier (.run p k now denied) ↔ kind inst m (denied n) := by
  constructor
  · rintro ⟨_, _, s', inst', m', ⟨⟩, h', hkind⟩
    obtain ⟨-, -, rfl, rfl⟩ := h.unique h'
    exact hkind
  · intro hkind
    exact ⟨now, denied, s, inst, m, rfl, h, hkind⟩

theorem Does.mono {kind' : Kind} (h : Does kind p k n earlier a)
    (himp : ∀ inst m denied, kind inst m denied → kind' inst m denied) :
    Does kind' p k n earlier a := by
  obtain ⟨now, denied, s, inst, m, rfl, hruns, hkind⟩ := h
  exact ⟨now, denied, s, inst, m, rfl, hruns, himp _ _ _ hkind⟩

theorem begins_proceeds {denied : Supervisor.Denials} (h : begins inst m denied) :
    proceeds inst m denied := by
  simp [proceeds, next?, h.1, h.2]

theorem observes_proceeds {denied : Supervisor.Denials} (h : observes inst m denied) :
    proceeds inst m denied := by
  obtain ⟨hactivity, hs, he, hm⟩ := h
  simp [proceeds, next?, hactivity, hs, he, hm]

theorem not_proceeds_of_none {now : Nat} {denied : Denials}
    (h : (after history).nestedStep p k now denied = none) :
    ¬ Does proceeds p k n history (.run p k now denied) := by
  rintro ⟨_, _, s, inst, m, ⟨⟩, hruns, hproceeds⟩
  rw [nestedStep_eq hruns, Option.map_eq_none_iff] at h
  exact hproceeds h

theorem Did.exists (h : Did kind p k n history) : ∃ s inst, (after history).get? p = some s ∧
    s.instances[k]? = some inst := by
  obtain ⟨earlier, a, hsuffix, now, denied, s, inst, m, rfl, hruns, -⟩ := h
  obtain ⟨u, inst', hu, hk', -⟩ :=
    after_instance ((List.suffix_cons _ earlier).trans hsuffix) hruns.parent hruns.number
  exact ⟨u, inst', hu, hk'⟩

/-- What an instance that is alive has done, by what it is doing. -/
structure Story (p k n : Nat) (history : List Move) (inst : Instance) : Prop where
  began : Did begins p k n history ↔ inst.activity.hasBegun = true
  observed : Did observes p k n history ↔ inst.activity.escalates = true
  stopped : ∀ j, inst.activity = .joining true j → Did (stops (.continues j)) p k n history
  dismissed : inst.activity.isDismissed = true → inst.signalled = true

theorem Story.of_other {inst' : Instance} (h : Story p k n history inst)
    (hother : ¬ Does proceeds p k n history a) (hactivity : inst'.activity = inst.activity)
    (hsignalled : inst.signalled = true → inst'.signalled = true) :
    Story p k n (a :: history) inst' := by
  have hsame {kind : Kind} (himp : ∀ inst m denied, kind inst m denied → proceeds inst m denied) :
      Did kind p k n (a :: history) ↔ Did kind p k n history :=
    did_cons.trans (or_iff_left fun hdoes => hother (hdoes.mono himp))
  constructor
  · rw [hsame fun _ _ _ => begins_proceeds, hactivity]
    exact h.began
  · rw [hsame fun _ _ _ => observes_proceeds, hactivity]
    exact h.observed
  · intro j hj
    rw [hactivity] at hj
    exact did_cons.2 (.inl (h.stopped j hj))
  · intro hdismissed
    rw [hactivity] at hdismissed
    exact hsignalled (h.dismissed hdismissed)

theorem Story.goOn (h : Story p k n history inst) (hruns : (after history).Runs p k n s inst m)
    {now : Nat} {denied : Denials} {activity : Activity}
    (hnext : next? inst m (denied n) = some (.goOn activity)) :
    Story p k n (.run p k now denied :: history) { inst with activity } := by
  have hdid (kind : Kind) : Did kind p k n (.run p k now denied :: history) ↔
      Did kind p k n history ∨ kind inst m (denied n) :=
    did_cons.trans (or_congr_right (does_iff hruns))
  have hgo : GoesOn inst m (denied n) activity := next?_cases hnext
  constructor
  · rw [hdid, h.began]
    cases hgo <;> simp [begins, Activity.hasBegun, *]
  · rw [hdid, h.observed]
    cases hgo <;> simp [observes, Activity.escalates, *]
  · rintro j rfl
    cases hgo with
    | join _ _ hactivity hstop => exact (hdid _).2 (.inr ⟨hactivity, hstop⟩)
  · intro hdismissed
    cases hgo with
    | dismiss _ hs => exact hs
    | join escalated j hactivity =>
      apply h.dismissed
      rw [hactivity]
      exact hdismissed
    | _ => cases hdismissed

theorem create_next {name : String} {u : Supervisor} (h : Supervisor.create name = .ok u)
    (k : Nat) :
    u.instances[k]? = none := by
  rw [Supervisor.create_instances h]
  rfl

theorem Story.first (hfirst : inst.activity.isFirst = true)
    (hnew : ∀ kind, ¬ Did kind p k n history) :
    Story p k n history inst := by
  constructor
  · rw [Activity.not_hasBegun_of_isFirst hfirst]
    exact iff_of_false (hnew _) Bool.false_ne_true
  · rw [Activity.not_escalates_of_isFirst hfirst]
    exact iff_of_false (hnew _) Bool.false_ne_true
  · intro j hj
    rw [hj] at hfirst
    cases hfirst
  · intro hdismissed
    rw [Activity.not_isDismissed_of_isFirst hfirst] at hdismissed
    cases hdismissed

theorem Runs.after_step (h : (after history).Runs p k n s inst m) (hne : p ≠ n) {now : Nat}
    {denied : Denials} {next : Next} (hnext : next? inst m (denied n) = some next) :
    (after (.run p k now denied :: history)).get? p =
      some ((after history).stepped p k now denied next s) := by
  rw [after, act_run h hnext]
  exact get?_modify_self p _ ((get?_modify_of_ne _ (Ne.symm hne)).trans h.parent)

theorem stepped_ended {now : Nat} {denied : Denials} {result : Except Failure Unit}
    (hk : (f.stepped q k now denied (.ended result) s).instances[k]? = some inst) :
    inst.live = false := by
  have hdead {instances : List Instance}
      (hk : (instances.modify k fun inst => { inst with live := false })[k]? = some inst) :
      inst.live = false := by
    obtain ⟨other, -, ⟨-, rfl⟩ | ⟨hne, -⟩⟩ := of_getElem?_modify hk
    · rfl
    · exact (hne rfl).elim
  rw [stepped] at hk
  split at hk
  · exact hdead hk
  · simp only [Supervisor.act, Supervisor.exit] at hk
    split at hk
    · rename_i other hother
      split at hk
      · exact hdead hk
      · rename_i hlive
        rw [hother] at hk
        cases hk
        simpa using hlive
    · rename_i hnone
      rw [hnone] at hk
      cases hk

/-- A move goes on with the story of an instance, whether it is a step of that or not. -/
theorem Story.act {inst' : Instance} (h : Story p k n history inst) (hne : p ≠ n)
    (hp : (after history).get? p = some s) (hk : s.instances[k]? = some inst)
    (htask : nestedOf s inst = some n) {t : Supervisor}
    (ht : (after (a :: history)).get? p = some t)
    (hk' : t.instances[k]? = some inst') (hlive : inst'.live = true) :
    Story p k n (a :: history) inst' := by
  obtain ⟨hlasts, -, hkept⟩ := (after_coherent history).act_outlasts hp hk ht hk'
  have hother (hnot : ¬ Does proceeds p k n history a) (hidle : ¬ a.isStepOf p k) :
      Story p k n (a :: history) inst' :=
    h.of_other hnot (hkept.resolve_left hidle).2 hlasts.signalled
  have hunmoved (hnot : ¬ Does proceeds p k n history a)
      (heq : (after history).act a = after history) : Story p k n (a :: history) inst' := by
    rw [show after (a :: history) = after history from heq, hp] at ht
    cases ht
    rw [hk] at hk'
    cases hk'
    exact h.of_other hnot rfl fun hs => hs
  cases a with
  | create | operate | forget => exact hother (by rintro ⟨_, _, _, _, _, ⟨⟩, -⟩) fun hstep => hstep
  | finish q j ending now denied =>
    have hnot : ¬ Does proceeds p k n history (.finish q j ending now denied) := by
      rintro ⟨_, _, _, _, _, ⟨⟩, -⟩
    by_cases hown : q = p ∧ j = k
    · -- The task of this instance is a supervisor, which does not end so.
      obtain ⟨rfl, rfl⟩ := hown
      apply hunmoved hnot
      simp [Forest.act, hp, hk, htask]
    · exact hother hnot hown
  | run q j now denied =>
    by_cases hown : q = p ∧ j = k
    · obtain ⟨rfl, rfl⟩ := hown
      cases hstep : (after history).nestedStep q j now denied with
      | none =>
        have hsame : (after history).act (.run q j now denied) = after history := by
          rw [Forest.act, hstep, Option.getD_none]
        exact hunmoved (not_proceeds_of_none hstep) hsame
      | some g =>
        obtain ⟨n', s', inst'', m, next, hruns, hnext⟩ := nestedStep_runs hstep
        obtain rfl : s = s' := Option.some.inj (hp.symm.trans hruns.parent)
        obtain rfl : inst = inst'' := Option.some.inj (hk.symm.trans hruns.number)
        obtain rfl : n = n' := Option.some.inj (htask.symm.trans hruns.task)
        obtain rfl := Option.some.inj (ht.symm.trans (hruns.after_step hne hnext))
        cases next with
        | goOn activity =>
          change (s.instances.modify j fun inst => { inst with activity })[j]? = some inst' at hk'
          rw [List.getElem?_modify_eq, hk] at hk'
          cases hk'
          exact h.goOn hruns hnext
        | ended result =>
          rw [stepped_ended hk'] at hlive
          cases hlive
    · refine hother ?_ hown
      rintro ⟨_, _, _, _, _, ⟨⟩, -⟩
      exact hown ⟨rfl, rfl⟩

/-- Whatever happens, what an instance is doing tells what it has done. -/
theorem story (hne : p ≠ n) (hp : (after history).get? p = some s)
    (hk : s.instances[k]? = some inst) (htask : nestedOf s inst = some n)
    (hlive : inst.live = true) :
    Story p k n history inst := by
  -- In each move, an instance is started, and has no story yet, or it goes on with its own.
  induction history generalizing s inst with
  | nil => cases hp
  | cons a history ih =>
    cases hbefore : (after history).get? p with
    | none =>
      obtain ⟨name, hcreated⟩ := create_of_act_get? hbefore hp
      rw [create_next hcreated] at hk
      cases hk
    | some t =>
      obtain ⟨u, hu, hcarried⟩ := act_carried hbefore a
      rw [show ((after history).act a).get? p = some s from hp] at hu
      cases hu
      rcases Nat.lt_or_ge k t.instances.length with hlt | hge
      · have hk' := List.getElem?_eq_getElem hlt
        generalize t.instances[k] = inst' at hk'
        obtain ⟨hlasts, hsame, -⟩ := (after_coherent history).act_outlasts hbefore hk' hp hk
        have htask' : nestedOf t inst' = some n := hsame.symm.trans htask
        exact (ih hbefore hk' htask' (hlasts.live hlive)).act hne hbefore hk' htask' hp hk hlive
      · refine .first (hcarried.fresh k inst hk hge).1 fun kind hdid => ?_
        -- What took a step would have been there before.
        have hearlier : ∃ t' inst', (after history).get? p = some t' ∧
            t'.instances[k]? = some inst' := by
          rcases did_cons.1 hdid with hdid | ⟨now, denied, t', inst', m, -, hruns, -⟩
          · exact hdid.exists
          · exact ⟨t', inst', hruns.parent, hruns.number⟩
        obtain ⟨t', inst', ht', hk'⟩ := hearlier
        rw [hbefore] at ht'
        cases ht'
        have hlt := (List.getElem?_eq_some_iff.1 hk').1
        omega

end Relay.Forest
