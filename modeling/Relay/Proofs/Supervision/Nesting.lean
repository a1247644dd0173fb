import Relay.Proofs.Supervision.Degradation
import Relay.Proofs.Supervision.Lifetimes
import Relay.Supervision.Forest

namespace Relay.Supervision

def Activity.call? (denied : Supervisor.Denials) : Activity → Option Supervisor.Action
  | .starting => some (.start denied)
  | .stopping _ => some .beginStop
  | _ => none

end Relay.Supervision

namespace Relay.Supervisor

/-- Whether an action is a step of an instance, which nobody else can take. -/
def Action.isOwn : Action → Bool
  | .exit .. | .progress .. => true
  | _ => false

theorem Action.not_taker {a : Action} (h : a.isOwn = false) {k : Nat} : ¬ a.taker k := by
  cases a with
  | exit | progress => cases h
  | _ => exact fun hk => hk

end Relay.Supervisor

namespace Relay.Forest

open Supervision

/-- What an instance comes to with one step: it goes on with something, or it ends. -/
inductive Next where
  | goOn (activity : Activity)
  | ended (result : Except Failure Unit)

/-- What an instance comes to that runs the supervisor `n`; nothing while it has to wait. -/
def next? (inst : Instance) (n : Supervisor) (denied : Supervisor.Denials) : Option Next :=
  match inst.activity with
  | .working => none
  | .waiting => if n.status.isActive && !inst.signalled then none else some (.goOn .checking)
  | .checking => some (if inst.signalled then .ended (.ok ()) else .goOn .starting)
  | .starting =>
    match (n.start denied).1 with
    | .ok () => some (.goOn .watching)
    | .error e => some (.ended (.error e.failure))
  | .watching =>
    if inst.signalled then some (.goOn (.stopping false))
    else if n.escalates && n.status == .degraded then some (.goOn (.stopping true))
    else none
  | .stopping escalated =>
    match n.beginStop.1 with
    | .error e => some (.ended (.error e.failure))
    | .ok .finished => some (.ended (conclusion n escalated))
    | .ok (.continues j) => some (.goOn (.joining escalated j))
  | .joining escalated j =>
    if n.stopReturned j then some (.ended (conclusion n escalated)) else none

inductive GoesOn (inst : Instance) (m : Supervisor) (denied : Supervisor.Denials) : Activity → Prop
  | check (h : inst.activity = .waiting) : GoesOn inst m denied .checking
  | start (h : inst.activity = .checking) : GoesOn inst m denied .starting
  | watch (h : inst.activity = .starting) (hstart : (m.start denied).1 = .ok ()) :
    GoesOn inst m denied .watching
  | dismiss (h : inst.activity = .watching) (hs : inst.signalled = true) :
    GoesOn inst m denied (.stopping false)
  | escalate (h : inst.activity = .watching) (hs : inst.signalled = false) (he : m.escalates = true)
    (hm : m.status = .degraded) : GoesOn inst m denied (.stopping true)
  | join (escalated : Bool) (j : Nat) (h : inst.activity = .stopping escalated)
    (hstop : m.beginStop.1 = .ok (.continues j)) : GoesOn inst m denied (.joining escalated j)

inductive EndsWith (inst : Instance) (m : Supervisor) (denied : Supervisor.Denials) :
    Except Failure Unit → Prop
  | dismissed (h : inst.activity = .checking) (hs : inst.signalled = true) :
    EndsWith inst m denied (.ok ())
  | refused (e : Error) (h : inst.activity = .starting) (hstart : (m.start denied).1 = .error e) :
    EndsWith inst m denied (.error e.failure)
  | unstoppable (escalated : Bool) (e : Error) (h : inst.activity = .stopping escalated)
    (hstop : m.beginStop.1 = .error e) : EndsWith inst m denied (.error e.failure)
  | stopped (escalated : Bool) (h : inst.activity = .stopping escalated)
    (hstop : m.beginStop.1 = .ok .finished) : EndsWith inst m denied (conclusion m escalated)
  | joined (escalated : Bool) (j : Nat) (h : inst.activity = .joining escalated j)
    (hstop : m.stopReturned j = true) : EndsWith inst m denied (conclusion m escalated)

theorem next?_cases {inst : Instance} {m : Supervisor} {denied : Supervisor.Denials} {next : Next}
    (h : next? inst m denied = some next) : match next with
      | .goOn activity => GoesOn inst m denied activity
      | .ended result => EndsWith inst m denied result := by
  unfold next? at h
  split at h
  · cases h
  · rename_i hactivity
    split at h
    · cases h
    · cases h
      exact .check hactivity
  · rename_i hactivity
    split at h
    · rename_i hs
      cases h
      exact .dismissed hactivity hs
    · cases h
      exact .start hactivity
  · rename_i hactivity
    split at h
    · rename_i hstart
      cases h
      exact .watch hactivity hstart
    · rename_i e hstart
      cases h
      exact .refused e hactivity hstart
  · rename_i hactivity
    split at h
    · rename_i hs
      cases h
      exact .dismiss hactivity hs
    · rename_i hs
      split at h
      · rename_i hdegraded
        cases h
        obtain ⟨he, hm⟩ := Bool.and_eq_true_iff.1 hdegraded
        exact .escalate hactivity (by simpa using hs) he (beq_iff_eq.1 hm)
      · cases h
  · rename_i escalated hactivity
    split at h
    · rename_i e hstop
      cases h
      exact .unstoppable escalated e hactivity hstop
    · rename_i hstop
      cases h
      exact .stopped escalated hactivity hstop
    · rename_i j hstop
      cases h
      exact .join escalated j hactivity hstop
  · rename_i escalated j hactivity
    split at h
    · rename_i hstop
      cases h
      exact .joined escalated j hactivity hstop
    · cases h

/-- The supervisor that an instance runs, after what the instance asks of it. -/
def served (activity : Activity) (denied : Supervisor.Denials) (n : Supervisor) : Supervisor :=
  (activity.call? denied).elim n n.act

def modify (f : Forest) (p : Nat) (g : Supervisor → Supervisor) : Forest :=
  { f with supervisors := f.supervisors.modify p g }

/-- A supervisor nobody holds, after one of its instances ended. -/
def lapse (k : Nat) (s : Supervisor) : Supervisor :=
  { s with instances := s.instances.modify k fun inst => { inst with live := false } }

/-- The supervisor `p` after the step of one of its instances. -/
def stepped (f : Forest) (p k now : Nat) (denied : Denials) : Next → Supervisor → Supervisor
  | .goOn activity => (·.act (.progress k activity))
  | .ended result => if f.isGone p then lapse k else (·.act (.exit k result now (denied p)))

/-- The instance `k` of the supervisor `p` is alive and runs the supervisor `n`. -/
structure Runs (f : Forest) (p k n : Nat) (s : Supervisor) (inst : Instance) (m : Supervisor) :
    Prop where
  parent : f.get? p = some s
  number : s.instances[k]? = some inst
  live : inst.live = true
  task : nestedOf s inst = some n
  nested : f.get? n = some m

variable {f g : Forest} {p q k n : Nat} {s m : Supervisor} {inst : Instance}

theorem get?_modify (f : Forest) (p q : Nat) (h : Supervisor → Supervisor) :
    (f.modify p h).get? q = (f.get? q).map fun s => if p = q then h s else s :=
  List.getElem?_modify ..

theorem set_eq_modify (h : Supervisor → Supervisor) (hn : f.get? n = some m) :
    f.set n (h m) = f.modify n h := by
  have hlist : f.supervisors.set n (h m) = f.supervisors.modify n h := by
    apply List.ext_getElem?
    intro j
    by_cases hj : n = j
    · subst hj
      have hlt := (List.getElem?_eq_some_iff.1 hn).1
      simp only [List.getElem?_set_self hlt, List.getElem?_modify_eq]
      rw [show f.supervisors[n]? = some m from hn]
      rfl
    · rw [List.getElem?_set_ne hj, List.getElem?_modify_ne _ _ hj]
  rw [set, modify, hlist]

theorem modify_unserved {activity : Activity} {denied : Supervisor.Denials}
    (h : activity.call? denied = none) : f.modify n (served activity denied) = f := by
  have hid : served activity denied = id := by
    funext m
    rw [served, h]
    rfl
  rw [modify, hid, List.modify_id]

theorem modify_served {activity : Activity} {denied : Supervisor.Denials} {a : Supervisor.Action}
    (h : activity.call? denied = some a) (hn : f.get? n = some m) :
    f.set n (m.act a) = f.modify n (served activity denied) := by
  have hact : served activity denied = (·.act a) := by
    funext m
    rw [served, h]
    rfl
  rw [hact, ← set_eq_modify _ hn]

theorem exit_eq (hgone : g.gone = f.gone) (result : Except Failure Unit) (now : Nat)
    (denied : Denials) :
    g.exit p k result now denied = g.modify p (f.stepped p k now denied (.ended result)) := by
  have hsame : g.isGone p = f.isGone p := by rw [isGone, hgone]; rfl
  rw [exit, hsame, stepped, modify]
  cases f.isGone p <;> rfl

/-- What the supervisors are once an instance of `p` has taken the step that it comes to. -/
def Next.take (f : Forest) (p k now : Nat) (denied : Denials) : Next → Forest
  | .goOn activity => f.setActivity p k activity
  | .ended result => f.exit p k result now denied

theorem Next.take_eq (hgone : g.gone = f.gone) (next : Next) (now : Nat) (denied : Denials) :
    next.take g p k now denied = g.modify p (f.stepped p k now denied next) := by
  cases next with
  | goOn activity => rfl
  | ended result => exact exit_eq hgone result now denied

/-- A step of an instance that runs a supervisor, in two parts. -/
theorem runStep_eq (hn : f.get? n = some m) (p k : Nat) (inst : Instance) (now : Nat)
    (denied : Denials) :
    f.runStep p k inst n m now denied = (next? inst m (denied n)).map fun next =>
      (f.modify n (served inst.activity (denied n))).modify p (f.stepped p k now denied next) := by
  have hexit (served : Supervisor → Supervisor) (result : Except Failure Unit) :
      (f.modify n served).exit p k result now denied =
        (f.modify n served).modify p (f.stepped p k now denied (.ended result)) :=
    exit_eq rfl result now denied
  -- The supervisor that it runs is changed only while the instance is starting or stopping.
  cases hactivity : inst.activity with
  | working => simp only [runStep, next?, hactivity, Option.map_none]
  | waiting =>
    have hidle : f.modify n (served .waiting (denied n)) = f := modify_unserved rfl
    simp only [runStep, next?, hactivity, hidle]
    split <;> rfl
  | checking =>
    have hidle : f.modify n (served .checking (denied n)) = f := modify_unserved rfl
    have hended := hexit (served .checking (denied n)) (.ok ())
    rw [hidle] at hended
    simp only [runStep, next?, hactivity, hidle, hended]
    split <;> rfl
  | starting =>
    have hcall : Activity.starting.call? (denied n) = some (.start (denied n)) := rfl
    have hserved : f.set n (m.start (denied n)).2 = f.modify n (served .starting (denied n)) :=
      modify_served hcall hn
    simp only [runStep, next?, hactivity]
    rcases hstart : m.start (denied n) with ⟨e | _, after⟩
    · rw [hstart] at hserved
      simp only [hserved, hexit]
      rfl
    · rw [hstart] at hserved
      simp only [hserved]
      rfl
  | watching =>
    have hidle : f.modify n (served .watching (denied n)) = f := modify_unserved rfl
    simp only [runStep, next?, hactivity, hidle]
    split
    · rfl
    · split <;> rfl
  | stopping escalated =>
    have hcall : (Activity.stopping escalated).call? (denied n) = some .beginStop := rfl
    have hserved : f.set n m.beginStop.2 = f.modify n (served (.stopping escalated) (denied n)) :=
      modify_served hcall hn
    simp only [runStep, next?, hactivity]
    rcases hstop : m.beginStop with ⟨e | _ | j, after⟩
    · rw [hstop] at hserved
      simp only [hserved, hexit]
      rfl
    · rw [hstop] at hserved
      simp only [hserved, hexit]
      rfl
    · rw [hstop] at hserved
      simp only [hserved]
      rfl
  | joining escalated j =>
    have hidle : f.modify n (served (.joining escalated j) (denied n)) = f := modify_unserved rfl
    have hended := hexit (served (.joining escalated j) (denied n)) (conclusion m escalated)
    rw [hidle] at hended
    simp only [runStep, next?, hactivity, hidle, hended]
    split <;> rfl

/-- What can happen to supervisors at once: one is created, or operated by somebody who holds it, or
the task of an instance ends, or an instance that runs a supervisor takes a step, or a supervisor
that nobody needs is given up. -/
inductive Move where
  | create (name : String)
  | operate (p : Nat) (a : Supervisor.Action)
  | finish (p k : Nat) (ending : Supervisor.Ending) (now : Nat) (denied : Denials)
  | run (p k now : Nat) (denied : Denials)
  | forget (p : Nat)

/-- The supervisors after a move; one that cannot be made leaves them as they were. -/
def act (f : Forest) : Move → Forest
  | .create name =>
    match Supervisor.create name with
    | .ok s => { f with supervisors := f.supervisors ++ [s] }
    | .error _ => f
  | .operate p a => if f.isGone p || a.isOwn then f else f.modify p (·.act a)
  | .finish p k ending now denied =>
    match (f.get? p).bind fun s => s.instances[k]?.map (nestedOf s) with
    | some none => f.exit p k ending.result now denied
    | _ => f
  | .run p k now denied => (f.nestedStep p k now denied).getD f
  | .forget p => if f.supervisors.length ≤ p || f.isNeeded p then f else f.forget p

/-- The supervisors after a history, whose latest move comes first. -/
def after : List Move → Forest
  | [] => ⟨[], []⟩
  | a :: earlier => (after earlier).act a

def Move.isStepOf (p k : Nat) : Move → Prop
  | .finish q j _ _ _ | .run q j _ _ => q = p ∧ j = k
  | _ => False

theorem nestedStep_eq (h : f.Runs p k n s inst m) (now : Nat) (denied : Denials) :
    f.nestedStep p k now denied = (next? inst m (denied n)).map fun next =>
      (f.modify n (served inst.activity (denied n))).modify p (f.stepped p k now denied next) := by
  rw [← runStep_eq h.nested]
  simp [nestedStep, h.parent, h.number, h.task, h.nested, h.live]

/-- In its step an instance asks something of the supervisor that it runs, and then goes on or ends. -/
theorem Runs.nestedStep_take (h : f.Runs p k n s inst m) (now : Nat) (denied : Denials) :
    f.nestedStep p k now denied = (next? inst m (denied n)).map
      (Next.take (f.set n (served inst.activity (denied n) m)) p k now denied) := by
  rw [nestedStep_eq h, set_eq_modify _ h.nested]
  congr
  funext next
  exact (next.take_eq rfl now denied).symm

theorem act_run (h : f.Runs p k n s inst m) {now : Nat} {denied : Denials} {next : Next}
    (hnext : next? inst m (denied n) = some next) : f.act (.run p k now denied) =
      (f.modify n (served inst.activity (denied n))).modify p (f.stepped p k now denied next) := by
  rw [act, nestedStep_eq h, hnext, Option.map_some, Option.getD_some]

theorem nestedStep_runs {now : Nat} {denied : Denials} (h : f.nestedStep p k now denied = some g) :
    ∃ n s inst m next, f.Runs p k n s inst m ∧ next? inst m (denied n) = some next := by
  simp only [nestedStep, Option.bind_eq_bind, Option.bind_eq_some_iff] at h
  obtain ⟨s, hs, inst, hk, n, htask, m, hm, h⟩ := h
  split at h
  · rename_i hlive
    have hruns : f.Runs p k n s inst m := ⟨hs, hk, hlive, htask, hm⟩
    rw [runStep_eq hm, Option.map_eq_some_iff] at h
    obtain ⟨next, hnext, -⟩ := h
    exact ⟨n, s, inst, m, next, hruns, hnext⟩
  · cases h

/-- What an instance that runs the supervisor `q` makes of it in a move. -/
inductive Served (f : Forest) (q : Nat) (s : Supervisor) : Move → Supervisor → Prop
  | idle (a : Move) : Served f q s a s
  | call {p k now : Nat} {denied : Denials} {parent : Supervisor} {inst : Instance}
      (h : f.Runs p k q parent inst s) :
      Served f q s (.run p k now denied) (served inst.activity (denied q) s)

/-- What becomes of `t` by a step of its own in a move. Here `t` is the supervisor `q`, which was
`s` before the move. -/
inductive Stepped (f : Forest) (q : Nat) (s t : Supervisor) : Move → Supervisor → Prop
  | idle (a : Move) : Stepped f q s t a t
  | operated (a : Supervisor.Action) (hheld : f.isGone q = false) (hown : a.isOwn = false) :
      Stepped f q s t (.operate q a) (t.act a)
  | finished {k : Nat} {ending : Supervisor.Ending} {now : Nat} {denied : Denials} {inst : Instance}
      (hk : s.instances[k]? = some inst) (htask : nestedOf s inst = none) :
      Stepped f q s t (.finish q k ending now denied)
        (f.stepped q k now denied (.ended ending.result) t)
  | ran {k now n : Nat} {denied : Denials} {inst : Instance} {m : Supervisor} {next : Next}
      (h : f.Runs q k n s inst m) (hnext : next? inst m (denied n) = some next) :
      Stepped f q s t (.run q k now denied) (f.stepped q k now denied next t)
  | forgotten : Stepped f q s t (.forget q) t.dropHandles

variable {t u : Supervisor} {a : Move}

theorem get?_modify_self (p : Nat) (h : Supervisor → Supervisor) (hp : f.get? p = some s) :
    (f.modify p h).get? p = some (h s) := by
  rw [get?_modify, hp, Option.map_some, if_pos rfl]

theorem get?_modify_of_ne (h : Supervisor → Supervisor) (hpq : p ≠ q) :
    (f.modify p h).get? q = f.get? q := by
  rw [get?_modify]
  cases f.get? q with
  | none => rfl
  | some s => rw [Option.map_some, if_neg hpq]

/-- A move does to each supervisor what is asked of it by an instance that runs it, and then what it
does itself. -/
theorem act_get? (hq : f.get? q = some s) (a : Move) :
    ∃ t u, Served f q s a t ∧ Stepped f q s t a u ∧ (f.act a).get? q = some u := by
  cases a with
  | create name =>
    refine ⟨s, s, .idle _, .idle _, ?_⟩
    rw [act]
    split
    · have hlt := (List.getElem?_eq_some_iff.1 hq).1
      exact (List.getElem?_append_left hlt).trans hq
    · exact hq
  | operate p a =>
    rw [act]
    split
    · exact ⟨s, s, .idle _, .idle _, hq⟩
    · rename_i hnot
      obtain ⟨hheld, hown⟩ : f.isGone p = false ∧ a.isOwn = false := by simpa using hnot
      by_cases hpq : p = q
      · subst hpq
        exact ⟨s, s.act a, .idle _, .operated a hheld hown, get?_modify_self p _ hq⟩
      · exact ⟨s, s, .idle _, .idle _, (get?_modify_of_ne _ hpq).trans hq⟩
  | finish p k ending now denied =>
    rw [act]
    split
    · rename_i htask
      obtain ⟨parent, hp, hinst⟩ := Option.bind_eq_some_iff.1 htask
      obtain ⟨inst, hk, hnone⟩ := Option.map_eq_some_iff.1 hinst
      rw [exit_eq rfl]
      by_cases hpq : p = q
      · subst hpq
        rw [hq] at hp
        cases hp
        exact ⟨s, _, .idle _, .finished hk hnone, get?_modify_self p _ hq⟩
      · exact ⟨s, s, .idle _, .idle _, (get?_modify_of_ne _ hpq).trans hq⟩
    · exact ⟨s, s, .idle _, .idle _, hq⟩
  | run p k now denied =>
    cases hstep : f.nestedStep p k now denied with
    | none =>
      rw [act, hstep]
      exact ⟨s, s, .idle _, .idle _, hq⟩
    | some g =>
      obtain ⟨n, parent, inst, m, next, hruns, hnext⟩ := nestedStep_runs hstep
      rw [act_run hruns hnext]
      -- The supervisor that the instance runs is served before the instance takes its step.
      have hserved : ∃ t, Served f q s (.run p k now denied) t ∧
          (f.modify n (served inst.activity (denied n))).get? q = some t := by
        by_cases hnq : n = q
        · subst hnq
          have hsame := hruns.nested
          rw [hq] at hsame
          cases hsame
          exact ⟨_, .call hruns, get?_modify_self n _ hq⟩
        · exact ⟨s, .idle _, (get?_modify_of_ne _ hnq).trans hq⟩
      obtain ⟨t, hst, ht⟩ := hserved
      by_cases hpq : p = q
      · subst hpq
        have hsame := hruns.parent
        rw [hq] at hsame
        cases hsame
        exact ⟨t, _, hst, .ran hruns hnext, get?_modify_self p _ ht⟩
      · exact ⟨t, t, hst, .idle _, (get?_modify_of_ne _ hpq).trans ht⟩
  | forget p =>
    rw [act]
    split
    · exact ⟨s, s, .idle _, .idle _, hq⟩
    · by_cases hpq : p = q
      · subst hpq
        exact ⟨s, s.dropHandles, .idle _, .forgotten, get?_modify_self p (·.dropHandles) hq⟩
      · exact ⟨s, s, .idle _, .idle _, (get?_modify_of_ne (·.dropHandles) hpq).trans hq⟩

theorem create_of_act_get? (hq : f.get? q = none) (hu : (f.act a).get? q = some u) :
    ∃ name, Supervisor.create name = .ok u := by
  have hmodify (g : Forest) (p : Nat) (h : Supervisor → Supervisor) (hg : g.get? q = none) :
      (g.modify p h).get? q = none := by rw [get?_modify, hg, Option.map_none]
  have hnone (hsame : (f.act a).get? q = none) : ∃ name, Supervisor.create name = .ok u := by
    rw [hsame] at hu
    cases hu
  cases a with
  | create name =>
    rw [act] at hu
    split at hu
    · rename_i s hs
      rcases of_getElem?_concat hu with hold | ⟨-, rfl⟩
      · exact (Option.some_ne_none u (hold.symm.trans hq)).elim
      · exact ⟨name, hs⟩
    · exact (Option.some_ne_none u (hu.symm.trans hq)).elim
  | operate p a =>
    apply hnone
    rw [act]
    split
    · exact hq
    · exact hmodify f p _ hq
  | finish p k ending now denied =>
    apply hnone
    rw [act]
    split
    · rw [exit_eq rfl]
      exact hmodify f p _ hq
    · exact hq
  | run p k now denied =>
    apply hnone
    cases hstep : f.nestedStep p k now denied with
    | none =>
      rw [act, hstep]
      exact hq
    | some g =>
      obtain ⟨n, parent, inst, m, next, hruns, hnext⟩ := nestedStep_runs hstep
      rw [act_run hruns hnext]
      exact hmodify _ p _ (hmodify f n _ hq)
  | forget p =>
    apply hnone
    rw [act]
    split
    · exact hq
    · exact hmodify f p (·.dropHandles) hq

theorem held_of_act (h : (f.act a).isGone p = false) :
    f.isGone p = false ∧ ((f.act a).supervisors = f.supervisors ∨ a ≠ .forget p) := by
  have hkept (hgone : (f.act a).gone = f.gone) : f.isGone p = false := by
    rw [isGone, ← hgone]
    exact h
  cases a with
  | create name =>
    refine ⟨hkept ?_, .inr nofun⟩
    rw [act]
    split <;> rfl
  | operate q a =>
    refine ⟨hkept ?_, .inr nofun⟩
    rw [act]
    split <;> rfl
  | finish q k ending now denied =>
    refine ⟨hkept ?_, .inr nofun⟩
    rw [act]
    split <;> rfl
  | run q k now denied =>
    refine ⟨hkept ?_, .inr nofun⟩
    cases hstep : f.nestedStep q k now denied with
    | none => rw [act, hstep, Option.getD_none]
    | some g =>
      obtain ⟨n, parent, inst, m, next, hruns, hnext⟩ := nestedStep_runs hstep
      rw [act_run hruns hnext]
      rfl
  | forget q =>
    rw [act] at h ⊢
    split at h
    · rename_i hrefused
      rw [if_pos hrefused]
      exact ⟨h, .inl rfl⟩
    · rename_i hgiven
      rw [if_neg hgiven]
      obtain ⟨hother, hheld⟩ : ¬ p = q ∧ f.isGone p = false := by
        simpa [isGone, forget] using h
      exact ⟨hheld, .inr fun heq => hother (Move.forget.inj heq).symm⟩

section Steps

theorem Served.calls (h : Served f q s a t) :
    t = s ∨ ∃ call : Supervisor.Action, ((∃ denied, call = .start denied) ∨ call = .beginStop) ∧
      t = s.act call := by
  cases h with
  | idle => exact .inl rfl
  | @call p k now denied parent inst h =>
    cases hactivity : inst.activity with
    | starting => exact .inr ⟨_, .inl ⟨denied q, rfl⟩, rfl⟩
    | stopping => exact .inr ⟨_, .inr rfl, rfl⟩
    | _ => exact .inl rfl

theorem Served.carried (h : Served f q s a t) : Supervisor.Carried Supervisor.nobody s t := by
  rcases h.calls with rfl | ⟨call, ⟨denied, rfl⟩ | rfl, rfl⟩
  · exact .refl t
  · exact s.act_carried (.start denied)
  · exact s.act_carried .beginStop

theorem Served.reachable (h : Served f q s a t) (hs : s.Reachable) : t.Reachable := by
  rcases h.calls with rfl | ⟨call, -, rfl⟩
  · exact hs
  · exact hs.act call

theorem Served.created (h : Served f q s a t) (ht : t.status = .created) : s.status = .created := by
  rcases h.calls with rfl | ⟨call, -, rfl⟩
  · exact ht
  · exact (Supervisor.act_created.1 ht).1

theorem stepped_carried (f : Forest) (q k now : Nat) (denied : Denials) (next : Next)
    (t : Supervisor) : Supervisor.Carried (fun j => j = k) t (f.stepped q k now denied next t) := by
  cases next with
  | goOn activity => exact t.act_carried (.progress k activity)
  | ended result =>
    rw [stepped]
    split
    · exact .modify t k fun inst => ⟨rfl, fun hs => hs, nofun⟩
    · exact t.act_carried (.exit k result now (denied q))

theorem act_carried (hq : f.get? q = some s) (a : Move) : ∃ u, (f.act a).get? q = some u ∧
    Supervisor.Carried (a.isStepOf q) s u := by
  obtain ⟨t, u, hserved, hstepped, hu⟩ := act_get? hq a
  refine ⟨u, hu, ?_⟩
  have hst := hserved.carried
  have hown {k : Nat} {own : Nat → Prop} (hk : own k) {u : Supervisor}
      (hlt : k < s.instances.length)
      (htu : Supervisor.Carried (fun j => j = k) t u) : Supervisor.Carried own s u :=
    (hst.trans htu fun j hj => hj ▸ hlt).mono fun j hj => hj ▸ hk
  cases hstepped with
  | idle => exact hst.mono fun _ => False.elim
  | operated a hheld hnot =>
    have hnobody := (t.act_carried a).mono fun k => Supervisor.Action.not_taker hnot
    exact (hst.trans_nobody hnobody).mono fun _ => False.elim
  | @finished k ending now denied inst hk =>
    exact hown ⟨rfl, rfl⟩ (List.getElem?_eq_some_iff.1 hk).1 (f.stepped_carried q k now denied _ t)
  | @ran k now n denied inst m next hruns =>
    exact hown ⟨rfl, rfl⟩ (List.getElem?_eq_some_iff.1 hruns.number).1
      (f.stepped_carried q k now denied next t)
  | forgotten =>
    exact (hst.trans_nobody (Supervisor.dropHandles_moves t).carried).mono fun _ => False.elim

theorem Stepped.reachable (h : Stepped f q s t a u) (hheld : f.isGone q = false) (ht : t.Reachable)
    (hkept : a ≠ .forget q) : u.Reachable := by
  have hstepped (k now : Nat) (denied : Denials) (next : Next) :
      (f.stepped q k now denied next t).Reachable := by
    cases next with
    | goOn activity => exact ht.act (.progress k activity)
    | ended result =>
      rw [stepped, hheld]
      exact ht.act (.exit k result now (denied q))
  cases h with
  | idle => exact ht
  | operated a => exact ht.act a
  | finished => exact hstepped _ _ _ _
  | ran => exact hstepped _ _ _ _
  | forgotten => exact (hkept rfl).elim

theorem Stepped.created (h : Stepped f q s t a u) (hu : u.status = .created) :
    t.status = .created := by
  have hstepped (k now : Nat) (denied : Denials) (next : Next)
      (h : (f.stepped q k now denied next t).status = .created) : t.status = .created := by
    cases next with
    | goOn activity => exact (Supervisor.act_created.1 h).1
    | ended result =>
      rw [stepped] at h
      split at h
      · exact h
      · exact (Supervisor.act_created.1 h).1
  cases h with
  | idle => exact hu
  | operated a => exact (Supervisor.act_created.1 hu).1
  | finished => exact hstepped _ _ _ _ hu
  | ran => exact hstepped _ _ _ _ hu
  | forgotten =>
    rw [Supervisor.dropHandles_eq] at hu
    exact hu

end Steps

/-- Every instance belongs to a child, and a supervisor that somebody holds is in a state that its
own operations can bring about. -/
def Coherent (f : Forest) : Prop :=
  ∀ (q : Nat) (s : Supervisor), f.get? q = some s →
    (∀ (k : Nat) (inst : Instance), s.instances[k]? = some inst → inst.child < s.children.length) ∧
    (f.isGone q = false → s.Reachable)

theorem Coherent.act (h : Coherent f) (a : Move) : Coherent (f.act a) := by
  intro q u hu
  cases hq : f.get? q with
  | none =>
    obtain ⟨name, hcreated⟩ := create_of_act_get? hq hu
    have hs := Supervisor.Reachable.create hcreated
    refine ⟨fun k inst hk => ?_, fun _ => hs⟩
    obtain ⟨c, hc, -⟩ := hs.sound.linked.known hk
    exact (List.getElem?_eq_some_iff.1 hc).1
  | some s =>
    obtain ⟨hknown, hreachable⟩ := h q s hq
    constructor
    · intro k inst' hk'
      obtain ⟨v, hv, hcarried⟩ := act_carried hq a
      rw [hu] at hv
      cases hv
      -- The instance was there before, or it was started in this move.
      rcases Nat.lt_or_ge k s.instances.length with hlt | hge
      · have hk := List.getElem?_eq_getElem hlt
        obtain ⟨inst, hinst, hlasts, -⟩ := hcarried.kept k _ hk
        rw [hk'] at hinst
        cases hinst
        rw [hlasts.child]
        exact (hknown k _ hk).trans_le hcarried.children_le
      · exact (hcarried.fresh k inst' hk' hge).2
    · intro hheld
      obtain ⟨hheld', hkept⟩ := held_of_act hheld
      obtain ⟨t, v, hserved, hstepped, hv⟩ := act_get? hq a
      rw [hu] at hv
      cases hv
      rcases hkept with hsame | hkept
      · rw [get?, hsame] at hu
        rw [get?, hu] at hq
        cases hq
        exact hreachable hheld'
      · exact hstepped.reachable hheld' (hserved.reachable (hreachable hheld')) hkept

theorem after_coherent (history : List Move) : Coherent (after history) := by
  induction history with
  | nil => exact fun q s hq => by cases hq
  | cons a earlier ih => exact ih.act a

/-- An instance keeps its number, its child and its task, and takes only steps of its own. -/
theorem Coherent.act_instance (h : Coherent f) (hq : f.get? q = some s)
    (hk : s.instances[k]? = some inst) (a : Move) : ∃ u inst', (f.act a).get? q = some u ∧
      u.instances[k]? = some inst' ∧ inst.Outlasts inst' ∧ nestedOf u inst' = nestedOf s inst ∧
      (a.isStepOf q k ∨ inst'.live = inst.live ∧ inst'.activity = inst.activity) := by
  obtain ⟨u, hu, hcarried⟩ := act_carried hq a
  obtain ⟨inst', hk', hlasts, hsame⟩ := hcarried.kept k inst hk
  refine ⟨u, inst', hu, hk', hlasts, ?_, hsame⟩
  have hc := List.getElem?_eq_getElem ((h q s hq).1 k inst hk)
  obtain ⟨c', hc', htask⟩ := hcarried.tasks _ _ hc
  rw [nestedOf, nestedOf, hlasts.child, hc, hc', Option.bind_some, Option.bind_some, htask]

theorem Coherent.act_outlasts (h : Coherent f) (hq : f.get? q = some s)
    (hk : s.instances[k]? = some inst) {u : Supervisor} {inst' : Instance} {a : Move}
    (hu : (f.act a).get? q = some u) (hk' : u.instances[k]? = some inst') :
    inst.Outlasts inst' ∧ nestedOf u inst' = nestedOf s inst ∧
      (a.isStepOf q k ∨ inst'.live = inst.live ∧ inst'.activity = inst.activity) := by
  obtain ⟨v, other, hv, hother, hkept⟩ := h.act_instance hq hk a
  rw [hu] at hv
  cases hv
  rw [hk'] at hother
  cases hother
  exact hkept

theorem after_instance {earlier later : List Move} (hsuffix : earlier <:+ later)
    (hq : (after earlier).get? q = some s) (hk : s.instances[k]? = some inst) :
    ∃ u inst', (after later).get? q = some u ∧ u.instances[k]? = some inst' ∧
      inst.Outlasts inst' ∧ nestedOf u inst' = nestedOf s inst := by
  induction later with
  | nil =>
    obtain rfl := List.suffix_nil.1 hsuffix
    exact ⟨s, inst, hq, hk, .refl inst, rfl⟩
  | cons a later ih =>
    rcases List.suffix_cons_iff.1 hsuffix with rfl | hsuffix
    · exact ⟨s, inst, hq, hk, .refl inst, rfl⟩
    · obtain ⟨t, inst', ht, hk', hlasts, htask⟩ := ih hsuffix
      obtain ⟨u, inst'', hu, hk'', hlasts', htask', -⟩ :=
        (after_coherent later).act_instance ht hk' a
      exact ⟨u, inst'', hu, hk'', hlasts.trans hlasts', htask'.trans htask⟩

theorem after_outlasts {earlier later : List Move} (hsuffix : earlier <:+ later)
    (hq : (after earlier).get? q = some s) (hk : s.instances[k]? = some inst) {u : Supervisor}
    {inst' : Instance} (hu : (after later).get? q = some u) (hk' : u.instances[k]? = some inst') :
    inst.Outlasts inst' ∧ nestedOf u inst' = nestedOf s inst := by
  obtain ⟨v, other, hv, hother, hkept⟩ := after_instance hsuffix hq hk
  rw [hu] at hv
  cases hv
  rw [hk'] at hother
  cases hother
  exact hkept

theorem after_not_created {earlier later : List Move} (hsuffix : earlier <:+ later)
    (hq : (after earlier).get? q = some s) (hs : s.status ≠ .created) :
    ∃ u, (after later).get? q = some u ∧ u.status ≠ .created := by
  induction later with
  | nil =>
    obtain rfl := List.suffix_nil.1 hsuffix
    exact ⟨s, hq, hs⟩
  | cons a later ih =>
    rcases List.suffix_cons_iff.1 hsuffix with rfl | hsuffix
    · exact ⟨s, hq, hs⟩
    · obtain ⟨v, hv, hstarted⟩ := ih hsuffix
      obtain ⟨t, u, hserved, hstepped, hu⟩ := act_get? hv a
      exact ⟨u, hu, fun hcreated => hstarted (hserved.created (hstepped.created hcreated))⟩

end Relay.Forest
