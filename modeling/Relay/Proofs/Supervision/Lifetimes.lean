import Relay.Proofs.Supervision.Stopping

namespace Relay.Supervision

def Activity.isFirst : Activity → Bool
  | .working | .waiting => true
  | _ => false

theorem Task.firstActivity_isFirst (task : Task) : task.firstActivity.isFirst = true := by
  unfold Task.firstActivity
  split <;> rfl

/-- `inst'` is what became of `inst`. -/
structure Instance.Outlasts (inst inst' : Instance) : Prop where
  child : inst'.child = inst.child
  signalled : inst.signalled = true → inst'.signalled = true
  live : inst'.live = true → inst.live = true

namespace Instance.Outlasts

variable {a b c : Instance}

theorem refl (a : Instance) : Outlasts a a := ⟨rfl, fun h => h, fun h => h⟩

theorem trans (hab : Outlasts a b) (hbc : Outlasts b c) : Outlasts a c :=
  ⟨hbc.child.trans hab.child, hbc.signalled ∘ hab.signalled, hab.live ∘ hbc.live⟩

end Instance.Outlasts

end Relay.Supervision

namespace Relay.Supervisor

open Supervision

variable {s t u : Supervisor} {own : Nat → Prop} {k : Nat} {denied : Denials}

/-- `t` came out of `s`; only the instances that `own` names may have taken a step of their own. -/
structure Carried (own : Nat → Prop) (s t : Supervisor) : Prop where
  tasks : ∀ (i : Nat) (c : Child), s.children[i]? = some c →
    ∃ c', t.children[i]? = some c' ∧ c'.task = c.task
  kept : ∀ (k : Nat) (inst : Instance), s.instances[k]? = some inst →
    ∃ inst', t.instances[k]? = some inst' ∧ inst.Outlasts inst' ∧
      (own k ∨ inst'.live = inst.live ∧ inst'.activity = inst.activity)
  fresh : ∀ (k : Nat) (inst : Instance), t.instances[k]? = some inst → s.instances.length ≤ k →
    inst.activity.isFirst = true ∧ inst.child < t.children.length

abbrev nobody : Nat → Prop := fun _ => False

namespace Carried

theorem children_le (h : Carried own s t) : s.children.length ≤ t.children.length := by
  by_contra hlt
  obtain ⟨c', hc', -⟩ := h.tasks t.children.length _ (List.getElem?_eq_getElem (by omega))
  exact absurd (List.getElem?_eq_some_iff.1 hc').1 (Nat.lt_irrefl _)

theorem trans (hst : Carried nobody s t) (htu : Carried own t u)
    (hown : ∀ k, own k → k < s.instances.length) : Carried own s u where
  tasks i c hc := by
    obtain ⟨c', hc', htask⟩ := hst.tasks i c hc
    obtain ⟨c'', hc'', htask'⟩ := htu.tasks i c' hc'
    exact ⟨c'', hc'', htask'.trans htask⟩
  kept k inst hk := by
    obtain ⟨inst', hk', hlasts, hsame⟩ := hst.kept k inst hk
    obtain ⟨inst'', hk'', hlasts', hsame'⟩ := htu.kept k inst' hk'
    obtain ⟨hlive, hactivity⟩ := hsame.resolve_left fun h => h
    refine ⟨inst'', hk'', hlasts.trans hlasts', hsame'.imp_right fun h => ?_⟩
    exact ⟨h.1.trans hlive, h.2.trans hactivity⟩
  fresh k inst hk hge := by
    -- An instance that is new in the end was new in the middle already, or only came after it.
    rcases Nat.lt_or_ge k t.instances.length with hlt | hge'
    · obtain ⟨hfirst, hknown⟩ := hst.fresh k _ (List.getElem?_eq_getElem hlt) hge
      obtain ⟨inst', hk', hlasts, hsame⟩ := htu.kept k _ (List.getElem?_eq_getElem hlt)
      rw [hk] at hk'
      cases hk'
      have hother : ¬ own k := fun hk => by
        have hlt := hown k hk
        omega
      rw [(hsame.resolve_left hother).2, hlasts.child]
      exact ⟨hfirst, hknown.trans_le htu.children_le⟩
    · exact htu.fresh k inst hk hge'

theorem mono {others : Nat → Prop} (h : Carried own s t) (hown : ∀ k, own k → others k) :
    Carried others s t where
  tasks := h.tasks
  kept k inst hk := by
    obtain ⟨inst', hk', hlasts, hsame⟩ := h.kept k inst hk
    exact ⟨inst', hk', hlasts, hsame.imp_left (hown k)⟩
  fresh := h.fresh

theorem trans_nobody (hst : Carried nobody s t) (htu : Carried nobody t u) : Carried nobody s u :=
  hst.trans htu fun _ => False.elim

theorem of_eq (hc : t.children.map Child.post = s.children.map Child.post)
    (hi : t.instances = s.instances) : Carried nobody s t where
  tasks i c hget := by
    have hpost : t.children[i]?.map Child.post = some c.post := by
      rw [← List.getElem?_map, hc, List.getElem?_map, hget, Option.map_some]
    obtain ⟨c', hc', heq⟩ := Option.map_eq_some_iff.1 hpost
    exact ⟨c', hc', congrArg Prod.snd heq⟩
  kept k inst hk := ⟨inst, hi ▸ hk, .refl inst, .inr ⟨rfl, rfl⟩⟩
  fresh k inst hk hge := by
    rw [hi] at hk
    have hlt := (List.getElem?_eq_some_iff.1 hk).1
    omega

theorem refl (s : Supervisor) : Carried nobody s s := .of_eq rfl rfl

theorem enroll (s : Supervisor) (name : Name) (task : Task) :
    Carried nobody s (s.enroll name task) where
  tasks i c hc := by
    have hlt := (List.getElem?_eq_some_iff.1 hc).1
    exact ⟨c, (List.getElem?_append_left hlt).trans hc, rfl⟩
  kept k inst hk := ⟨inst, hk, .refl inst, .inr ⟨rfl, rfl⟩⟩
  fresh k inst hk hge := by
    have hlt := (List.getElem?_eq_some_iff.1 hk).1
    change s.instances.length ≤ k at hge
    change k < s.instances.length at hlt
    omega

theorem dropHandle (s : Supervisor) (i : Nat) : Carried nobody s (s.dropHandle i) where
  tasks j c hc := by
    rw [dropHandle_children, List.getElem?_modify, hc]
    refine ⟨_, rfl, ?_⟩
    dsimp only
    split <;> rfl
  kept k inst hk := by
    have hafter := s.dropHandle_getElem?_instances i k
    rw [hk, Option.map_some] at hafter
    exact ⟨_, hafter, ⟨rfl, fun hs => by simp [hs], fun hl => hl⟩, .inr ⟨rfl, rfl⟩⟩
  fresh k inst hk hge := by
    have hlt := (List.getElem?_eq_some_iff.1 hk).1
    rw [dropHandle_instances_length] at hlt
    omega

theorem launch {i : Nat} {c : Child} (hc : s.children[i]? = some c) :
    Carried nobody s (s.launch i c) := by
  have hdropped := Carried.dropHandle s i
  have hroster : (s.launch i c).children.map Child.post = s.children.map Child.post :=
    map_post_modify s.children i fun _ => rfl
  have htasks : Carried nobody s { s with children := (s.launch i c).children } :=
    .of_eq hroster rfl
  constructor
  · exact htasks.tasks
  · intro k inst hk
    obtain ⟨inst', hk', hlasts, hsame⟩ := hdropped.kept k inst hk
    have hlt := (List.getElem?_eq_some_iff.1 hk').1
    exact ⟨inst', (List.getElem?_append_left hlt).trans hk', hlasts, hsame⟩
  · intro k inst hk hge
    change ((s.dropHandle i).instances ++ [_])[k]? = some inst at hk
    rcases of_getElem?_concat hk with hk | ⟨-, rfl⟩
    · have hlt := (List.getElem?_eq_some_iff.1 hk).1
      rw [dropHandle_instances_length] at hlt
      omega
    · refine ⟨c.task.firstActivity_isFirst, ?_⟩
      change i < (s.launch i c).children.length
      rw [Supervisor.launch, List.length_modify]
      exact (List.getElem?_eq_some_iff.1 hc).1

theorem modify (s : Supervisor) (k : Nat) {f : Instance → Instance}
    (hf : ∀ inst : Instance, inst.Outlasts (f inst)) :
    Carried (fun j => j = k) s { s with instances := s.instances.modify k f } where
  tasks i c hc := ⟨c, hc, rfl⟩
  kept j inst hj := by
    by_cases hkj : k = j
    · subst hkj
      exact ⟨f inst, by simp [hj], hf inst, .inl rfl⟩
    · exact ⟨inst, by simp [List.getElem?_modify_ne _ _ hkj, hj], .refl inst, .inr ⟨rfl, rfl⟩⟩
  fresh j inst hj hge := by
    have hlt := (List.getElem?_eq_some_iff.1 hj).1
    rw [List.length_modify] at hlt
    omega

end Carried

theorem Move.carried (h : Move s t) : Carried nobody s t := by
  cases h with
  | record heq hroster => exact .of_eq hroster (by rw [heq])
  | drop i heq =>
    subst heq
    exact .dropHandle s i
  | launch i c hc heq =>
    subst heq
    exact .launch hc

theorem Moves.carried (h : Moves s t) : Carried nobody s t := by
  induction h with
  | refl => exact .refl s
  | tail _ hlast ih => exact ih.trans_nobody hlast.carried

theorem beginStop_carried (s : Supervisor) : Carried nobody s s.beginStop.2 := by
  cases ha : s.status.isActive with
  | true =>
    rw [beginStop_active ha]
    refine (dropHandles_moves s).carried.trans_nobody (.of_eq ?_ rfl)
    have hhalted : s.halt.children.map Child.post = s.children.map Child.post := by
      refine map_post_map s.children fun c => ?_
      unfold Child.halted
      split <;> rfl
    rw [hhalted, dropHandles_children]
    exact (map_post_map s.children (f := Child.released) fun _ => rfl).symm
  | false =>
    rw [beginStop_inactive ha]
    exact .refl s

/-- The instance that takes an action as a step of its own. -/
def Action.taker : Action → Nat → Prop
  | .exit k _ _ _, j | .progress k _, j => j = k
  | _, _ => False

theorem exit_carried (s : Supervisor) (k : Nat) (result : Except Failure Unit) (now : Nat)
    (denied : Denials) : Carried (fun j => j = k) s (s.exit k result now denied) := by
  unfold exit
  split
  · rename_i inst hk
    split
    · have hlt := (List.getElem?_eq_some_iff.1 hk).1
      have hhandled : Carried nobody s (s.childExited inst result now denied) := by
        rcases childExited_moves s inst result now denied with hmoves | hmoves
        · exact hmoves.carried
        · have hcharged : Carried nobody s { s with budget := s.charged now } := .of_eq rfl rfl
          exact hcharged.trans_nobody hmoves.carried
      refine hhandled.trans (.modify _ k fun inst => ⟨rfl, fun hs => hs, nofun⟩) ?_
      rintro j rfl
      exact hlt
    · exact (Carried.refl s).mono fun _ => False.elim
  · exact (Carried.refl s).mono fun _ => False.elim

theorem act_carried (s : Supervisor) (a : Action) : Carried a.taker s (s.act a) := by
  cases a with
  | register task denied =>
    rcases register_moves s task denied with hmoves | ⟨name, hmoves⟩
    · exact hmoves.carried
    · exact (Carried.enroll s name task).trans_nobody hmoves.carried
  | addDependency child on =>
    obtain ⟨dependencies, -, heq⟩ := addDependency_eq s child on
    rw [act, heq]
    exact .of_eq rfl rfl
  | start denied =>
    by_cases hstarts : s.starts
    · have hready : Carried nobody s { s with init := s.init.tail, budget := .fresh } :=
        .of_eq rfl rfl
      exact hready.trans_nobody (start_moves hstarts).carried
    · obtain ⟨init, heq⟩ := start_refused hstarts denied
      rw [act, heq]
      exact .of_eq rfl rfl
  | beginStop => exact beginStop_carried s
  | stopStep j =>
    rw [act]
    cases hs : s.stopStep j with
    | none => exact .refl s
    | some t =>
      obtain ⟨stopper, -, hstopped⟩ := stopStep_cases hs
      cases hstopped with
      | take _ ht | close _ _ _ ht | report _ ht =>
        rw [ht]
        exact .of_eq rfl rfl
  | restartChild i denied =>
    simp only [act, restartChild]
    split
    · exact .refl s
    · exact restart_moves.carried
  | reportFailure i failure now denied =>
    simp only [act, reportFailure]
    split
    · exact .refl s
    · have hcharged : Carried nobody s { s with budget := s.charged now } := .of_eq rfl rfl
      exact hcharged.trans_nobody (handleFailure_moves s i failure now denied).carried
  | exit k result now denied => exact exit_carried s k result now denied
  | progress k activity => exact .modify s k fun inst => ⟨rfl, fun hs => hs, fun hl => hl⟩
  | superviseChannel | strategy | settings | events | wait | waitLook => exact .of_eq rfl rfl

end Relay.Supervisor
