import Relay.Proofs.Supervision.Watching

namespace Relay.Forest

open Supervision

variable {f : Forest} {p q k n : Nat} {s m : Supervisor} {inst : Instance} {a : Move}
  {earlier history : List Move} {kind : Kind}

theorem Does.activates (h : Does begins p k n history a) (hne : p ≠ n) : ∃ m m',
    (after history).get? n = some m ∧ m.status.isActive = false ∧
      (after (a :: history)).get? n = some m' ∧ m'.status.isActive = true := by
  obtain ⟨now, denied, s, inst, m, rfl, hruns, hactivity, hstart⟩ := h
  have hnext : next? inst m (denied n) = some (.goOn .watching) := by
    simp [next?, hactivity, hstart]
  refine ⟨m, (m.start (denied n)).2, hruns.nested, ?_, ?_, ?_⟩
  · have hbegun := Supervisor.start_begun m (denied n)
    rw [hstart] at hbegun
    cases hbegun with
    | started _ hstarts => exact hstarts.1
  · rw [after, act_run hruns hnext, get?_modify_of_ne _ hne, hactivity]
    exact get?_modify_self n _ hruns.nested
  · exact (Supervisor.start_active m (denied n)).2 (.inr hstart)

theorem Did.started (h : Did begins p k n history) (hne : p ≠ n)
    (hm : (after history).get? n = some m) :
    m.status ≠ .created := by
  obtain ⟨earlier, a, hsuffix, hdoes⟩ := h
  obtain ⟨-, m', -, -, hm', hactive⟩ := hdoes.activates hne
  obtain ⟨u, hu, hstarted⟩ := after_not_created hsuffix hm' (Status.ne_created hactive)
  rw [hm] at hu
  cases hu
  exact hstarted

theorem beginStop_error {e : Error} (h : m.beginStop.1 = .error e) : m.status = .created := by
  unfold Supervisor.beginStop at h
  split at h
  · assumption
  · cases h
  · cases h
  · cases h

def failsToStart (f : Forest) (p n : Nat) : Move → Bool
  | .run q k _ denied => q == p && (f.get? p).any fun s => s.instances[k]?.any fun inst =>
    inst.live && nestedOf s inst == some n && inst.activity == .starting &&
      (f.get? n).any fun m => !(m.start (denied n)).1.isOk
  | _ => false

theorem start_ne_error {now : Nat} {denied : Denials}
    (h : f.failsToStart p n (.run p k now denied) = false)
    (hruns : f.Runs p k n s inst m) (hactivity : inst.activity = .starting) (e : Error) :
    (m.start (denied n)).1 ≠ .error e := by
  intro hfailed
  simp [failsToStart, hruns.parent, hruns.number, hruns.live, hruns.task, hruns.nested, hactivity,
    hfailed, Except.isOk, Except.toBool] at h

/-- The instance has found its supervisor degraded, and its call of stop has returned. -/
structure Escalated (p k n : Nat) (history : List Move) (a : Move) (m : Supervisor) : Prop where
  observed : Did observes p k n history
  stopped : Does (stops .finished) p k n history a ∨
    ∃ j, Did (stops (.continues j)) p k n history ∧ m.stopReturned j = true

/-- An instance that could start its supervisor ends because it was signalled, or because it found
its supervisor degraded. -/
theorem ends_cases (hne : p ≠ n) (hruns : (after history).Runs p k n s inst m) {now : Nat}
    {denied : Denials} {result : Except Failure Unit}
    (hnext : next? inst m (denied n) = some (.ended result))
    (hstart : (after history).failsToStart p n (.run p k now denied) = false) :
    result = .ok () ∧ inst.signalled = true ∧ ¬ Did observes p k n history ∨
    result = conclusion m true ∧ Escalated p k n history (.run p k now denied) m := by
  have hstory : Story p k n history inst :=
    story hne hruns.parent hruns.number hruns.task hruns.live
  have hunobserved (hactivity : inst.activity.escalates = false) :
      ¬ Did observes p k n history := by
    rw [hstory.observed, hactivity]
    exact Bool.false_ne_true
  have hended : EndsWith inst m (denied n) result := next?_cases hnext
  cases hended with
  | dismissed hactivity hs => exact .inl ⟨rfl, hs, hunobserved (by rw [hactivity]; rfl)⟩
  | refused e hactivity hfailed => exact (start_ne_error hstart hruns hactivity e hfailed).elim
  | unstoppable escalated e hactivity hfailed =>
    have hbegan : Did begins p k n history := hstory.began.2 (by rw [hactivity]; rfl)
    exact (hbegan.started hne hruns.nested (beginStop_error hfailed)).elim
  | stopped escalated hactivity hstopped =>
    cases escalated with
    | false =>
      have hs : inst.signalled = true := hstory.dismissed (by rw [hactivity]; rfl)
      exact .inl ⟨rfl, hs, hunobserved (by rw [hactivity]; rfl)⟩
    | true =>
      refine .inr ⟨rfl, hstory.observed.2 (by rw [hactivity]; rfl), .inl ?_⟩
      exact (does_iff hruns).2 ⟨hactivity, hstopped⟩
  | joined escalated j hactivity hreturned =>
    cases escalated with
    | false =>
      have hs : inst.signalled = true := hstory.dismissed (by rw [hactivity]; rfl)
      exact .inl ⟨rfl, hs, hunobserved (by rw [hactivity]; rfl)⟩
    | true =>
      refine .inr ⟨rfl, hstory.observed.2 (by rw [hactivity]; rfl), .inr ⟨j, ?_, hreturned⟩⟩
      exact hstory.stopped j hactivity

/-- Nothing has changed from `s` to `t` but what instances are doing, and whether they are alive. -/
structure Undisturbed (s t : Supervisor) : Prop where
  eq : t = { s with instances := t.instances }
  instances : t.instances.map (fun inst => (inst.child, inst.generation, inst.signalled)) =
    s.instances.map fun inst => (inst.child, inst.generation, inst.signalled)

namespace Undisturbed

theorem refl (s : Supervisor) : Undisturbed s s := ⟨rfl, rfl⟩

theorem trans {t u : Supervisor} (hst : Undisturbed s t) (htu : Undisturbed t u) :
    Undisturbed s u where
  eq := by rw [htu.eq, hst.eq]
  instances := htu.instances.trans hst.instances

theorem modify (s : Supervisor) (k : Nat) {g : Instance → Instance}
    (hg : ∀ inst : Instance, ((g inst).child, (g inst).generation, (g inst).signalled) =
      (inst.child, inst.generation, inst.signalled)) :
    Undisturbed s { s with instances := s.instances.modify k g } := ⟨rfl, map_modify hg⟩

end Undisturbed

/-- A move in which the supervisor `p` has no part, unless by an instance that runs the supervisor
`n`. -/
def Spares (f : Forest) (p n : Nat) : Move → Prop
  | .create _ => True
  | .operate q _ | .finish q _ _ _ _ | .forget q => q ≠ p
  | .run q k _ _ => ∀ s inst number, f.get? q = some s → s.instances[k]? = some inst →
    nestedOf s inst = some number → number ≠ p ∧ (q = p → number = n)

theorem act_undisturbed (hne : p ≠ n) (hp : (after history).get? p = some s)
    (hspares : (after history).Spares p n a) (hstart : (after history).failsToStart p n a = false)
    (hquiet : ∀ k, ¬ Did observes p k n history) :
    ∃ t, (after (a :: history)).get? p = some t ∧ Undisturbed s t := by
  obtain ⟨t, u, hserved, hstepped, hu⟩ := act_get? hp a
  refine ⟨u, hu, ?_⟩
  have hunserved : t = s := by
    cases hserved with
    | idle => rfl
    | call hruns => exact ((hspares _ _ p hruns.parent hruns.number hruns.task).1 rfl).elim
  subst hunserved
  cases hstepped with
  | idle => exact .refl t
  | operated | finished | forgotten => exact (hspares rfl).elim
  | @ran k now n' denied inst m next hruns hnext =>
    obtain rfl := (hspares _ _ n' hruns.parent hruns.number hruns.task).2 rfl
    cases next with
    | goOn activity => exact .modify t k fun _ => rfl
    | ended result =>
      rcases ends_cases hne hruns hnext hstart with ⟨rfl, hs, -⟩ | ⟨-, hescalated⟩
      · rw [stepped]
        split
        · exact .modify t k fun _ => rfl
        · rename_i hheld
          have hreachable := (after_coherent history p t hp).2 (by simpa using hheld)
          change Undisturbed t (t.exit k (.ok ()) now (denied p))
          rw [hreachable.sound.exit_of_signalled hruns.number hs]
          exact .modify t k fun _ => rfl
      · exact (hquiet k hescalated.observed).elim

theorem Did.escalates (h : Did observes p k n history) : ∃ earlier m, earlier <:+ history ∧
    (after earlier).get? n = some m ∧ m.escalates = true := by
  obtain ⟨earlier, a, hsuffix, now, denied, s, inst, m, rfl, hruns, hobserves⟩ := h
  exact ⟨earlier, m, (List.suffix_cons _ earlier).trans hsuffix, hruns.nested, hobserves.2.2.1⟩

/-- A supervisor that never escalates does not disturb the one in whose instances it runs. -/
theorem after_undisturbed {later : List Move} (hne : p ≠ n) (hs : (after earlier).get? p = some s)
    (hspares : ∀ a between, a :: between <:+ later → (after (between ++ earlier)).Spares p n a)
    (hstarts : ∀ a before, a :: before <:+ later ++ earlier →
      (after before).failsToStart p n a = false)
    (hquiet : ∀ before m, before <:+ later ++ earlier → (after before).get? n = some m →
      m.escalates = false) :
    ∃ t, (after (later ++ earlier)).get? p = some t ∧ Undisturbed s t := by
  induction later with
  | nil => exact ⟨s, hs, .refl s⟩
  | cons a later ih =>
    have hshorter : later ++ earlier <:+ a :: later ++ earlier :=
      List.suffix_cons a (later ++ earlier)
    obtain ⟨t, ht, hundisturbed⟩ := ih
      (fun b between hsuffix => hspares b between (hsuffix.trans (List.suffix_cons a later)))
      (fun b before hsuffix => hstarts b before (hsuffix.trans hshorter))
      fun before m hsuffix => hquiet before m (hsuffix.trans hshorter)
    have hunobserved (k : Nat) : ¬ Did observes p k n (later ++ earlier) := by
      intro hobserved
      obtain ⟨before, m, hsuffix, hm, hescalates⟩ := hobserved.escalates
      exact Bool.false_ne_true ((hquiet before m (hsuffix.trans hshorter) hm).symm.trans hescalates)
    obtain ⟨u, hu, hundisturbed'⟩ := act_undisturbed hne ht (hspares a later List.suffix_rfl)
      (hstarts a (later ++ earlier) List.suffix_rfl) hunobserved
    exact ⟨u, hu, hundisturbed.trans hundisturbed'⟩

def isActive (f : Forest) (n : Nat) : Bool := (f.get? n).any (·.status.isActive)

/-- How often a supervisor became active. -/
def incarnations (n : Nat) : List Move → Nat
  | [] => 0
  | a :: earlier => incarnations n earlier +
    if (after (a :: earlier)).isActive n && !(after earlier).isActive n then 1 else 0

theorem incarnations_mono {later : List Move} (hsuffix : earlier <:+ later) :
    incarnations n earlier ≤ incarnations n later := by
  induction later with
  | nil =>
    obtain rfl := List.suffix_nil.1 hsuffix
    exact Nat.le_refl _
  | cons a later ih =>
    rcases List.suffix_cons_iff.1 hsuffix with rfl | hsuffix
    · exact Nat.le_refl _
    · exact (ih hsuffix).trans (Nat.le_add_right _ _)

theorem Does.incarnations (h : Does begins p k n earlier a) (hne : p ≠ n) :
    incarnations n (a :: earlier) = incarnations n earlier + 1 := by
  obtain ⟨m, m', hm, hinactive, hm', hactive⟩ := h.activates hne
  simp [Forest.incarnations, isActive, hm, hinactive, hm', hactive]

/-- A move ends an instance of `p`, which runs `n`, with an error, and `p` answers that as a
failure. -/
def Charges (p k n : Nat) (earlier : List Move) (a : Move) : Prop :=
  ∃ now denied s inst m failure, a = .run p k now denied ∧ (after earlier).Runs p k n s inst m ∧
    next? inst m (denied n) = some (.ended (.error failure)) ∧ (after earlier).isGone p = false ∧
    s.FailureOf inst.child failure now (denied p) (some k) (.exit k (.error failure) now (denied p))

/-- After the beginning `earlier` of a history, `p` is charged for an instance that took a step of
some kind in the incarnation `c` of `n`. -/
def ChargedFor (kind : Kind) (p n : Nat) (history : List Move) (c : Nat) (earlier : List Move) :
    Prop :=
  ∃ a k before, a :: earlier <:+ history ∧ Charges p k n earlier a ∧
    StepIn kind p k n before earlier ∧ incarnations n before = c

theorem Charges.ends (h : Charges p k n earlier a) : Does ends p k n earlier a := by
  obtain ⟨now, denied, s, inst, m, failure, rfl, hruns, hnext, -⟩ := h
  exact ⟨now, denied, s, inst, m, rfl, hruns, _, hnext⟩

theorem Does.ends_once (h : Does ends p k n earlier a) (hne : p ≠ n) {b : Move} {later : List Move}
    (hsuffix : a :: earlier <:+ later) : ¬ Does kind p k n later b := by
  rintro ⟨_, _, s, inst, m, rfl, hruns, -⟩
  obtain ⟨now, denied, s', inst', m', rfl, hruns', result, hnext⟩ := h
  have hstepped : (after (.run p k now denied :: earlier)).get? p = some _ :=
    hruns'.after_step hne hnext
  obtain ⟨u, inst'', hu, hk, -⟩ :=
    after_instance (List.suffix_cons _ earlier) hruns'.parent hruns'.number
  rw [hstepped] at hu
  cases hu
  have hdead := stepped_ended hk
  obtain ⟨hlasts, -⟩ := after_outlasts hsuffix hstepped hk hruns.parent hruns.number
  have hlive := hlasts.live hruns.live
  rw [hdead] at hlive
  cases hlive

theorem eq_or_before {later : List Move} {b : Move} (ha : a :: earlier <:+ history)
    (hb : b :: later <:+ history) :
    earlier = later ∧ a = b ∨ a :: earlier <:+ later ∨ b :: later <:+ earlier := by
  rcases List.suffix_or_suffix_of_suffix ha hb with hsuffix | hsuffix
  · rcases List.suffix_cons_iff.1 hsuffix with heq | hsuffix
    · obtain ⟨rfl, rfl⟩ := List.cons.inj heq
      exact .inl ⟨rfl, rfl⟩
    · exact .inr (.inl hsuffix)
  · rcases List.suffix_cons_iff.1 hsuffix with heq | hsuffix
    · obtain ⟨rfl, rfl⟩ := List.cons.inj heq
      exact .inl ⟨rfl, rfl⟩
    · exact .inr (.inr hsuffix)

theorem Does.incarnations_lt {later : List Move} (h : Does begins p k n earlier a) (hne : p ≠ n)
    (hsuffix : a :: earlier <:+ later) :
    Forest.incarnations n earlier < Forest.incarnations n later := by
  have hgrown := incarnations_mono (n := n) hsuffix
  rw [h.incarnations hne] at hgrown
  omega

theorem StepIn.begun (h : StepIn observes p k n earlier history) (hne : p ≠ n) :
    Did begins p k n earlier := by
  obtain ⟨a, -, now, denied, s, inst, m, -, hruns, hobserves⟩ := h
  have hstory : Story p k n earlier inst :=
    story hne hruns.parent hruns.number hruns.task hruns.live
  exact hstory.began.2 (by rw [hobserves.1]; rfl)

theorem StepIn.extend {later : List Move} (h : StepIn kind p k n earlier history)
    (hsuffix : history <:+ later) : StepIn kind p k n earlier later := by
  obtain ⟨a, ha, hdoes⟩ := h
  exact ⟨a, ha.trans hsuffix, hdoes⟩

theorem StepIn.before (h : StepIn kind p k n earlier history) : earlier <:+ history := by
  obtain ⟨a, ha, -⟩ := h
  exact (List.suffix_cons a earlier).trans ha

theorem begins_unique {k' c : Nat} {earlier' : List Move} (hne : p ≠ n)
    (h : StepIn begins p k n earlier history) (h' : StepIn begins p k' n earlier' history)
    (hc : incarnations n earlier = c) (hc' : incarnations n earlier' = c) : k = k' := by
  obtain ⟨a, ha, hdoes⟩ := h
  obtain ⟨b, hb, hdoes'⟩ := h'
  rcases eq_or_before ha hb with ⟨rfl, rfl⟩ | hbefore | hbefore
  · obtain ⟨_, _, _, _, _, rfl, -⟩ := hdoes
    obtain ⟨_, _, _, _, _, heq, -⟩ := hdoes'
    cases heq
    rfl
  · have hlt := hdoes.incarnations_lt hne hbefore
    omega
  · have hlt := hdoes'.incarnations_lt hne hbefore
    omega

/-- In each incarnation one instance starts the supervisor, and `p` is charged for it at most
once. -/
theorem ChargedFor.begins_once {c : Nat} {later : List Move} (hne : p ≠ n)
    (h : ChargedFor begins p n history c earlier) (h' : ChargedFor begins p n history c later) :
    earlier = later := by
  obtain ⟨a, k, before, ha, hcharges, hbegins, hc⟩ := h
  obtain ⟨b, k', before', hb, hcharges', hbegins', hc'⟩ := h'
  have hearlier := (List.suffix_cons a earlier).trans ha
  have hlater := (List.suffix_cons b later).trans hb
  obtain rfl := begins_unique hne (hbegins.extend hearlier) (hbegins'.extend hlater) hc hc'
  rcases eq_or_before ha hb with ⟨heq, -⟩ | hbefore | hbefore
  · exact heq
  · exact (hcharges.ends.ends_once hne hbefore hcharges'.ends).elim
  · exact (hcharges'.ends.ends_once hne hbefore hcharges.ends).elim

/-- At most one child of `p` runs `n`. -/
def Sole (f : Forest) (p n : Nat) : Prop :=
  ∀ s, f.get? p = some s → ∀ (i j : Nat) (c d : Child), s.children[i]? = some c →
    s.children[j]? = some d → c.task.nested = some n → d.task.nested = some n → i = j

theorem Sole.child_eq {k' : Nat} {other : Instance} (h : (after history).Sole p n)
    (hsuffix : earlier <:+ history) (hs : (after earlier).get? p = some s)
    (hk : s.instances[k]? = some inst) (hk' : s.instances[k']? = some other)
    (htask : nestedOf s inst = some n) (htask' : nestedOf s other = some n) :
    other.child = inst.child := by
  obtain ⟨u, first, hu, -, hlasts, hsame⟩ := after_instance hsuffix hs hk
  obtain ⟨v, second, hv, -, hlasts', hsame'⟩ := after_instance hsuffix hs hk'
  rw [hu] at hv
  cases hv
  obtain ⟨c, hc, hcn⟩ := Option.bind_eq_some_iff.1 (hsame.trans htask)
  obtain ⟨d, hd, hdn⟩ := Option.bind_eq_some_iff.1 (hsame'.trans htask')
  have hplace : second.child = first.child := h u hu second.child first.child d c hd hc hdn hcn
  rwa [hlasts.child, hlasts'.child] at hplace

theorem Charges.accepted (h : Charges p k n earlier a) : ∃ s inst, (after earlier).get? p = some s ∧
    s.instances[k]? = some inst ∧ nestedOf s inst = some n ∧ s.Reachable ∧
    s.accepts inst = true := by
  obtain ⟨now, denied, s, inst, m, failure, rfl, hruns, -, hheld, hfailure⟩ := h
  cases hfailure with
  | exit hk _ _ haccepts =>
    rw [hruns.number] at hk
    cases hk
    exact ⟨s, inst, hruns.parent, hruns.number, hruns.task,
      (after_coherent earlier p s hruns.parent).2 hheld, haccepts⟩

/-- If only one child of `p` runs `n`, an instance that `p` is charged for later did not exist when
`p` was charged before. -/
theorem Charges.succeeded {k' : Nat} {b : Move} {later : List Move} (h : Charges p k n earlier a)
    (h' : Charges p k' n later b) (hne : p ≠ n) (hbefore : a :: earlier <:+ later)
    (hb : b :: later <:+ history) (hsole : (after history).Sole p n) :
    ∀ s, (after earlier).get? p = some s → s.instances.length ≤ k' := by
  intro s hs
  by_contra hlt
  obtain ⟨s', inst, hs', hk, htask, hreachable, haccepts⟩ := h.accepted
  rw [hs] at hs'
  cases hs'
  obtain ⟨u, inst', hu, hk', htask', hreachable', haccepts'⟩ := h'.accepted
  have hlater := (List.suffix_cons a earlier).trans hbefore
  have hend := (List.suffix_cons b later).trans hb
  have hkk' : k' ≠ k := by
    rintro rfl
    exact h.ends.ends_once hne hbefore h'.ends
  have hold := List.getElem?_eq_getElem (l := s.instances) (i := k') (by omega)
  generalize s.instances[k'] = other at hold
  obtain ⟨hlasts, hsame⟩ := after_outlasts hlater hs hold hu hk'
  have hchild : other.child = inst.child :=
    hsole.child_eq (hlater.trans hend) hs hk hold htask (hsame.symm.trans htask')
  have hunsignalled := (hreachable.sound.accepted hk haccepts).2
  have hsignalled := (hreachable.sound.linked.latest hk hunsignalled hold hchild hkk').1
  have hrefused := hreachable'.sound.refuses_signalled hk' (hlasts.signalled hsignalled)
  rw [haccepts'] at hrefused
  cases hrefused

theorem ChargedFor.observes_lt {k' : Nat} {b : Move} {later o o' : List Move} (hne : p ≠ n)
    (hsole : (after history).Sole p n) (h : Charges p k n earlier a) (h' : Charges p k' n later b)
    (hbefore : a :: earlier <:+ later) (hb : b :: later <:+ history)
    (ho : StepIn observes p k n o earlier) (ho' : StepIn observes p k' n o' later) :
    incarnations n o < incarnations n o' := by
  obtain ⟨start, c, hc, hdoes⟩ := ho'.begun hne
  have hstarted := hdoes.incarnations_lt hne hc
  have hobserved := incarnations_mono (n := n) ho.before
  have hlater : c :: start <:+ later := hc.trans ho'.before
  -- The later instance was started after the earlier one had ended.
  rcases eq_or_before hbefore hlater with ⟨rfl, -⟩ | hfirst | hfirst
  · omega
  · have hgrown := incarnations_mono (n := n) ((List.suffix_cons a earlier).trans hfirst)
    omega
  · have hdid : Did begins p k' n earlier := ⟨start, c, hfirst, hdoes⟩
    obtain ⟨s, inst, hs, hk⟩ := hdid.exists
    have hge := h.succeeded h' hne hbefore hb hsole s hs
    have hlt := (List.getElem?_eq_some_iff.1 hk).1
    omega

theorem ChargedFor.observes_once {c : Nat} {later : List Move} (hne : p ≠ n)
    (hsole : (after history).Sole p n) (h : ChargedFor observes p n history c earlier)
    (h' : ChargedFor observes p n history c later) : earlier = later := by
  obtain ⟨a, k, o, ha, hcharges, ho, hc⟩ := h
  obtain ⟨b, k', o', hb, hcharges', ho', hc'⟩ := h'
  rcases eq_or_before ha hb with ⟨heq, -⟩ | hbefore | hbefore
  · exact heq
  · have hlt := observes_lt hne hsole hcharges hcharges' hbefore hb ho ho'
    omega
  · have hlt := observes_lt hne hsole hcharges' hcharges hbefore ha ho' ho
    omega

theorem conclusion_escalated (m : Supervisor) : ∃ failure, conclusion m true = .error failure :=
  ⟨_, rfl⟩

/-- A supervisor that `p` has as a child, and that the instances of that child can start when they
want to, disturbs `p` only by escalating. If it never escalates, then whatever happens to it and to
others, all that changes in `p` is what instances are doing, and whether they are alive. An instance
that runs it, which takes its steps as `next?` says, ends with an error exactly if it found it
degraded before it learnt of a signal, and then it has stopped it. For each incarnation of it, `p`
is charged at most once for the instance that started it, and, if no other child is the same
supervisor, at most once for what was observed in it. -/
theorem nested_failures_contained (hne : p ≠ n)
    (hstarts : ∀ a earlier, a :: earlier <:+ history → (after earlier).failsToStart p n a = false) :
    ((∀ earlier m, earlier <:+ history → (after earlier).get? n = some m → m.escalates = false) →
      ∀ later earlier s, history = later ++ earlier → (after earlier).get? p = some s →
        (∀ a between, a :: between <:+ later → (after (between ++ earlier)).Spares p n a) →
        ∃ t, (after history).get? p = some t ∧ Undisturbed s t) ∧
    (∀ (f : Forest) k now denied s inst m, f.Runs p k n s inst m →
      f.nestedStep p k now denied = (next? inst m (denied n)).map
        (Next.take (f.set n (served inst.activity (denied n) m)) p k now denied)) ∧
    (∀ k now denied earlier s inst m result, .run p k now denied :: earlier <:+ history →
      (after earlier).Runs p k n s inst m → next? inst m (denied n) = some (.ended result) →
        ((∃ failure, result = .error failure) ↔ Did observes p k n earlier) ∧
        (Did observes p k n earlier → result = conclusion m true ∧
          Escalated p k n earlier (.run p k now denied) m)) ∧
    (∀ k a earlier, a :: earlier <:+ history → Charges p k n earlier a →
      (∃ c, ChargedFor begins p n history c earlier) ∧
      ∃ c, ChargedFor observes p n history c earlier) ∧
    (∀ c earlier later, ChargedFor begins p n history c earlier →
      ChargedFor begins p n history c later → earlier = later) ∧
    ((after history).Sole p n → ∀ c earlier later, ChargedFor observes p n history c earlier →
      ChargedFor observes p n history c later → earlier = later) := by
  have hends (k now : Nat) (denied : Denials) (earlier : List Move) (s : Supervisor)
      (inst : Instance) (m : Supervisor) (result : Except Failure Unit)
      (hsuffix : .run p k now denied :: earlier <:+ history)
      (hruns : (after earlier).Runs p k n s inst m)
      (hnext : next? inst m (denied n) = some (.ended result)) :=
    ends_cases hne hruns hnext (hstarts _ earlier hsuffix)
  refine ⟨fun hquiet later earlier s heq hs hspares => ?_, ?_, ?_, ?_, ?_, ?_⟩
  · subst heq
    exact after_undisturbed hne hs hspares hstarts hquiet
  · exact fun f k now denied s inst m hruns => hruns.nestedStep_take now denied
  · intro k now denied earlier s inst m result hsuffix hruns hnext
    rcases hends k now denied earlier s inst m result hsuffix hruns hnext with
      ⟨rfl, -, hunobserved⟩ | ⟨rfl, hescalated⟩
    · refine ⟨⟨?_, fun h => (hunobserved h).elim⟩, fun h => (hunobserved h).elim⟩
      rintro ⟨failure, hfailure⟩
      cases hfailure
    · exact ⟨⟨fun _ => hescalated.observed, fun _ => conclusion_escalated m⟩,
        fun _ => ⟨rfl, hescalated⟩⟩
  · rintro k a earlier hsuffix hcharges
    have hobserved : Did observes p k n earlier := by
      obtain ⟨now, denied, s, inst, m, failure, rfl, hruns, hnext, -⟩ := hcharges
      rcases hends k now denied earlier s inst m _ hsuffix hruns hnext with
        ⟨heq, -⟩ | ⟨-, hescalated⟩
      · cases heq
      · exact hescalated.observed
    obtain ⟨o, ho⟩ := hobserved
    obtain ⟨start, hstart⟩ := ho.begun hne
    exact ⟨⟨_, a, k, start, hsuffix, hcharges, hstart.extend ho.before, rfl⟩,
      ⟨_, a, k, o, hsuffix, hcharges, ho, rfl⟩⟩
  · exact fun c earlier later h h' => h.begins_once hne h'
  · exact fun hsole c earlier later h h' => h.observes_once hne hsole h'

/-- The only child of the nested supervisor fails, and is not restarted. If that supervisor does not
escalate, the instance that runs it goes on without a word; if it does, the instance ends with an
error, which its parent answers by a restart. -/
theorem nested_failures_contained_worker_fails :
    let boom := Failure.ofMessage "boom"
    let permitted : Denials := fun _ => Supervisor.noDenials
    let setup (escalates : Bool) : List Move := [
      .operate 1 (.register ⟨"leaf", some 0⟩ Supervisor.noDenials),
      .operate 1 (.strategy (RestartStrategy.standard.withBudget 1 ⟨60⟩)), .create "top",
      .operate 0 (.register ⟨"worker", none⟩ Supervisor.noDenials),
      .operate 0 (.settings false escalates []),
      .operate 0 (.strategy (RestartStrategy.standard.withBudget 0 ⟨60⟩)), .create "leaf"]
    let running (escalates : Bool) :=
      [.run 1 0 0 permitted, .run 1 0 0 permitted, .run 1 0 0 permitted,
      .operate 1 (.start Supervisor.noDenials)] ++ setup escalates
    let failure := .finish 0 0 (.failed boom) 7 permitted
    let last := .run 1 0 8 permitted
    let escalating :=
      [.operate 0 (.stopStep 0), .operate 0 (.stopStep 0), .operate 0 (.stopStep 0), last,
      last, failure] ++ running true
    (∃ s t, (after (running false)).get? 1 = some s ∧
      (after ([last, failure] ++ running false)).get? 1 = some t ∧ Undisturbed s t) ∧
    Did observes 1 0 0 escalating ∧ (∃ m, Escalated 1 0 0 escalating last m) ∧
    ∃ c, ChargedFor observes 1 0 (last :: escalating) c escalating := by
  intro boom permitted setup running failure last escalating
  have htails (history : List Move) (check : List Move → Bool) (h : history.tails.all check = true)
      (earlier : List Move) (hsuffix : earlier <:+ history) : check earlier = true :=
    List.all_eq_true.1 h earlier ((List.mem_tails earlier history).2 hsuffix)
  have hstarts (history : List Move) (h : history.tails.all (fun steps =>
        steps.head?.all fun a => !(after steps.tail).failsToStart 1 0 a) = true)
      (a : Move) (earlier : List Move) (hsuffix : a :: earlier <:+ history) :
      (after earlier).failsToStart 1 0 a = false := by
    simpa using htails history _ h (a :: earlier) hsuffix
  have hquiet (earlier : List Move) (m : Supervisor)
      (hsuffix : earlier <:+ [last, failure] ++ running false)
      (hm : (after earlier).get? 0 = some m) : m.escalates = false := by
    have hchecked := htails _ (fun earlier => ((after earlier).get? 0).all (!·.escalates))
      (by decide +kernel) earlier hsuffix
    simpa [hm] using hchecked
  have hspares (a : Move) (between : List Move) (hsuffix : a :: between <:+ [last, failure]) :
      (after (between ++ running false)).Spares 1 0 a := by
    simp only [List.suffix_cons_iff, List.suffix_nil, List.cons.injEq, reduceCtorEq,
      or_false] at hsuffix
    rcases hsuffix with ⟨rfl, rfl⟩ | ⟨rfl, rfl⟩
    · rintro s inst number hs hk htask
      cases hs
      cases hk
      cases htask
      exact ⟨by decide, fun _ => rfl⟩
    · exact Nat.zero_ne_one
  -- What the kernel finds at the last move: the stop that the instance waits for has returned, and
  -- its parent listens to it.
  have hfound : ((after escalating).get? 1).any (fun s => s.instances[0]?.any fun inst =>
      inst.live && nestedOf s inst == some 0 && s.accepts inst &&
        inst.activity == .joining true 0 &&
        ((after escalating).get? 0).any (·.stopReturned 0)) = true := by decide +kernel
  obtain ⟨s, hs, hfound⟩ := (Option.any_eq_true _ _).1 hfound
  obtain ⟨inst, hk, hfound⟩ := (Option.any_eq_true _ _).1 hfound
  simp only [Bool.and_eq_true, beq_iff_eq] at hfound
  obtain ⟨⟨⟨⟨hlive, htask⟩, haccepts⟩, hactivity⟩, hfound⟩ := hfound
  obtain ⟨m, hm, hreturned⟩ := (Option.any_eq_true _ _).1 hfound
  obtain ⟨failed, hfailed⟩ := conclusion_escalated m
  have hnext : next? inst m Supervisor.noDenials = some (.ended (.error failed)) := by
    simp [next?, hactivity, hreturned, hfailed]
  have hruns : (after escalating).Runs 1 0 0 s inst m := ⟨hs, hk, hlive, htask, hm⟩
  have hheld : (after escalating).isGone 1 = false := by decide +kernel
  have hcharges : Charges 1 0 0 escalating last :=
    ⟨8, permitted, s, inst, m, failed, rfl, hruns, hnext, hheld, .exit hk rfl hlive haccepts⟩
  obtain ⟨hcontained, -⟩ := nested_failures_contained (by decide)
    (hstarts ([last, failure] ++ running false) (by decide +kernel))
  obtain ⟨-, -, hends, hcharged, -⟩ := nested_failures_contained (by decide)
    (hstarts (last :: escalating) (by decide +kernel))
  obtain ⟨hobserved, hescalated⟩ :=
    hends 0 8 permitted escalating s inst m _ List.suffix_rfl hruns hnext
  have hdegraded : Did observes 1 0 0 escalating := hobserved.1 ⟨failed, rfl⟩
  have hparent : ((after (running false)).get? 1).isSome = true := by decide +kernel
  obtain ⟨quiet, hquiet'⟩ := Option.isSome_iff_exists.1 hparent
  obtain ⟨t, ht, hundisturbed⟩ :=
    hcontained hquiet [last, failure] (running false) quiet rfl hquiet' hspares
  exact ⟨⟨quiet, t, hquiet', ht, hundisturbed⟩, hdegraded, ⟨m, (hescalated hdegraded).2⟩,
    (hcharged 0 last escalating List.suffix_rfl hcharges).2⟩

end Relay.Forest
