import Relay.Proofs.Supervision.History
import Relay.Proofs.Supervision.Operations

namespace Relay.Supervision

/-- A running child holds a handle, and any child does so only while its supervisor is active. -/
structure Child.Tidy (active : Bool) (c : Child) : Prop where
  holds : c.state = .running → c.handle ≠ none
  active : c.handle ≠ none → active = true

theorem Child.Tidy.of_free {c : Child} {active : Bool} (hs : c.state ≠ .running)
    (hh : c.handle = none) : c.Tidy active :=
  ⟨fun hr => (hs hr).elim, fun hn => (hn hh).elim⟩

end Relay.Supervision

namespace Relay.Supervisor

open Supervision Relation

/-- The invariant of a supervisor between its changes. -/
structure Sound (s : Supervisor) : Prop where
  linked : Linked s.children s.instances
  tidy : ∀ c ∈ s.children, c.Tidy s.status.isActive

variable {loses strands : Nat → Prop} {s t : Supervisor} {i : Nat} {denied : Denials}

/-- The instances `after` are the instances `before`, of which some were signalled since, and others
that were started since. -/
def Kept (before after : List Instance) : Prop :=
  ∀ (k : Nat) (inst : Instance), before[k]? = some inst → ∃ inst', after[k]? = some inst' ∧
    inst'.child = inst.child ∧ inst'.generation = inst.generation ∧ inst'.live = inst.live ∧
    (inst.signalled = true → inst'.signalled = true)

theorem Kept.refl (instances : List Instance) : Kept instances instances :=
  fun _ _ hk => ⟨_, hk, rfl, rfl, rfl, fun hs => hs⟩

theorem Kept.trans {a b c : List Instance} (hab : Kept a b) (hbc : Kept b c) : Kept a c := by
  intro k inst hk
  obtain ⟨inst', hk', hc, hg, hl, hs⟩ := hab k inst hk
  obtain ⟨inst'', hk'', hc', hg', hl', hs'⟩ := hbc k inst' hk'
  exact ⟨inst'', hk'', hc'.trans hc, hg'.trans hg, hl'.trans hl, hs' ∘ hs⟩

theorem Kept.dropHandle (s : Supervisor) (i : Nat) :
    Kept s.instances (s.dropHandle i).instances := by
  intro k inst hk
  have hafter := s.dropHandle_getElem?_instances i k
  rw [hk, Option.map_some] at hafter
  exact ⟨_, hafter, rfl, rfl, rfl, fun hs => by simp [hs]⟩

theorem Kept.dropHandles (s : Supervisor) : Kept s.instances s.dropHandles.instances :=
  dropHandles_induction (P := fun t => Kept s.instances t.instances)
    (fun t i ht => ht.trans (.dropHandle t i)) (.refl _)

theorem Kept.append (instances : List Instance) (inst : Instance) :
    Kept instances (instances ++ [inst]) := by
  intro k old hk
  have hlt := (List.getElem?_eq_some_iff.1 hk).1
  exact ⟨old, by rw [List.getElem?_append_left hlt, hk], rfl, rfl, rfl, fun hs => hs⟩

theorem Kept.launch (s : Supervisor) (i : Nat) (c : Child) :
    Kept s.instances (s.launch i c).instances :=
  (Kept.dropHandle s i).trans (.append _ _)

theorem Kept.proceed (instances : List Instance) (k : Nat) (activity : Activity) :
    Kept instances (instances.modify k fun inst => { inst with activity }) := by
  intro j inst hj
  refine ⟨if k = j then { inst with activity } else inst, by simp [List.getElem?_modify, hj], ?_⟩
  split <;> exact ⟨rfl, rfl, rfl, fun hs => hs⟩

theorem Change.kept (h : Change loses strands s t) : Kept s.instances t.instances ∨
    ∃ k, t.instances = s.instances.modify k fun inst => { inst with live := false } := by
  cases h with
  | other _ _ hi | degrade _ _ _ hi | add _ _ _ _ hi | deny _ _ _ _ hi | count _ _ _ hi
  | abandon _ _ _ _ _ hi | prepare _ _ _ hi => exact .inl (hi ▸ .refl _)
  | launch i c _ _ _ _ hi => exact .inl (hi ▸ .launch s i c)
  | fail i _ _ hi | complete i _ _ hi => exact .inl (hi ▸ .dropHandle s i)
  | finish k _ _ _ hi => exact .inr ⟨k, hi⟩
  | proceed k activity _ _ hi => exact .inl (hi ▸ .proceed _ k activity)
  | withdraw _ _ hi | halt _ _ hi => exact .inl (hi ▸ .dropHandles s)

theorem Change.signalled (h : Change loses strands s t) {k : Nat} {inst : Instance}
    (hk : s.instances[k]? = some inst) (hs : inst.signalled = true) :
    ∃ inst', t.instances[k]? = some inst' ∧ inst'.child = inst.child ∧
      inst'.generation = inst.generation ∧ inst'.signalled = true := by
  rcases h.kept with hkept | ⟨j, hj⟩
  · obtain ⟨inst', hk', hc, hg, -, hs'⟩ := hkept k inst hk
    exact ⟨inst', hk', hc, hg, hs' hs⟩
  · refine ⟨if j = k then { inst with live := false } else inst, ?_, ?_⟩
    · simp [hj, List.getElem?_modify, hk]
    · split <;> exact ⟨rfl, rfl, hs⟩

theorem Changes.signalled (h : Changes loses strands s t) {k : Nat} {inst : Instance}
    (hk : s.instances[k]? = some inst) (hs : inst.signalled = true) :
    ∃ inst', t.instances[k]? = some inst' ∧ inst'.child = inst.child ∧
      inst'.generation = inst.generation ∧ inst'.signalled = true := by
  induction h with
  | refl => exact ⟨inst, hk, rfl, rfl, hs⟩
  | tail _ hlast ih =>
    obtain ⟨inst', hk', hc, hg, hs'⟩ := ih
    obtain ⟨inst'', hk'', hc', hg', hs''⟩ := hlast.signalled hk' hs'
    exact ⟨inst'', hk'', hc'.trans hc, hg'.trans hg, hs''⟩

theorem Sound.change (h : Sound s) (hst : Change loses strands s t) : Sound t := by
  cases hst with
  | other hs hc hi => exact ⟨hc ▸ hi ▸ h.linked, hs ▸ hc ▸ h.tidy⟩
  | degrade ha hs hc hi =>
    refine ⟨hc ▸ hi ▸ h.linked, ?_⟩
    rw [hs, hc]
    exact fun c hm => ⟨(h.tidy c hm).holds, fun _ => rfl⟩
  | add name task hs hc hi =>
    refine ⟨hc ▸ hi ▸ h.linked.add_child rfl, ?_⟩
    rw [hs, hc]
    intro c hm
    rcases List.mem_append.1 hm with hm | hm
    · exact h.tidy c hm
    · rw [List.mem_singleton.1 hm]
      exact .of_free nofun rfl
  | deny i _ hs hc hi =>
    refine ⟨hc ▸ hi ▸ h.linked.modify_child i fun _ => ⟨rfl, Nat.le_succ _⟩, ?_⟩
    rw [hs, hc]
    exact forall_mem_modify i h.tidy (fun _ hd => hd) fun _ hd => ⟨hd.holds, hd.active⟩
  | launch i c ha hget hs hc hi =>
    refine ⟨hc ▸ hi ▸ launch_linked h.linked hget, ?_⟩
    rw [hs, hc]
    exact forall_mem_modify i h.tidy (fun _ hd => hd) fun _ hd => ⟨fun _ => nofun, fun _ => ha⟩
  | count i hs hc hi =>
    refine ⟨hc ▸ hi ▸ h.linked.modify_child i fun _ => ⟨rfl, Nat.le_refl _⟩, ?_⟩
    rw [hs, hc]
    exact forall_mem_modify i h.tidy (fun _ hd => hd) fun _ hd => ⟨hd.holds, hd.active⟩
  | abandon i _ ha hs hc hi =>
    refine ⟨hc ▸ hi ▸ h.linked.modify_child i fun _ => ⟨rfl, Nat.le_succ _⟩, ?_⟩
    rw [hs, hc]
    exact forall_mem_modify i h.tidy (fun _ hd => ⟨hd.holds, fun _ => rfl⟩)
      fun _ _ => ⟨nofun, fun _ => rfl⟩
  | fail i hs hc hi =>
    have hl := release_linked i h.linked (f := Child.faulty) fun _ => ⟨rfl, Nat.le_refl _⟩
    refine ⟨hc ▸ hi ▸ hl, ?_⟩
    rw [hs, hc]
    exact forall_mem_modify i h.tidy (fun _ hd => hd) fun _ _ => .of_free nofun rfl
  | complete i hs hc hi =>
    have hl := release_linked i h.linked (f := fun c => { c with state := .completed })
      fun _ => ⟨rfl, Nat.le_refl _⟩
    refine ⟨hc ▸ hi ▸ hl, ?_⟩
    rw [hs, hc]
    exact forall_mem_modify i h.tidy (fun _ hd => hd) fun _ _ => .of_free nofun rfl
  | finish k _ hs hc hi =>
    refine ⟨hc ▸ hi ▸ h.linked.modify_instance k fun _ => ⟨rfl, rfl, rfl⟩, ?_⟩
    rw [hs, hc]
    exact h.tidy
  | proceed k activity hs hc hi =>
    refine ⟨hc ▸ hi ▸ h.linked.modify_instance k fun _ => ⟨rfl, rfl, rfl⟩, ?_⟩
    rw [hs, hc]
    exact h.tidy
  | prepare ha hs hc hi =>
    refine ⟨hc ▸ hi ▸ h.linked.map_children fun _ => ⟨rfl, Nat.le_refl _⟩, ?_⟩
    rw [hs, hc]
    exact List.forall_mem_map.2 fun c hm => ⟨nofun, fun _ => rfl⟩
  | withdraw hs hc hi =>
    have hl := releaseAll_linked h.linked (f := fun c => { c with state := .idle })
      fun _ => ⟨rfl, Nat.le_refl _⟩
    refine ⟨hc ▸ hi ▸ hl, ?_⟩
    rw [hs, hc]
    exact List.forall_mem_map.2 fun _ _ => .of_free nofun rfl
  | halt hs hc hi =>
    have hl := releaseAll_linked h.linked
      (f := fun c => if c.state = .running then { c with state := .stopped } else c) fun c => by
        split <;> exact ⟨rfl, Nat.le_refl _⟩
    refine ⟨hc ▸ hi ▸ hl, ?_⟩
    rw [hs, hc]
    refine List.forall_mem_map.2 fun c _ => ?_
    unfold Child.halted
    split
    · exact .of_free nofun rfl
    · rename_i hnot
      exact .of_free hnot rfl

theorem Sound.changes (h : Sound s) (hst : Changes loses strands s t) : Sound t := by
  induction hst with
  | refl => exact h
  | tail _ hlast ih => exact ih.change hlast

/-- Only the instance whose handle is held is listened to. -/
theorem Sound.accepted (h : Sound s) {k : Nat} {inst : Instance}
    (hk : s.instances[k]? = some inst) (ha : s.accepts inst = true) :
    s.children[inst.child]?.bind (·.handle) = some k ∧ inst.signalled = false := by
  obtain ⟨-, c, hc, hg, hr⟩ := accepts_iff.1 ha
  have hholds := (h.tidy c (List.mem_of_getElem? hc)).holds hr
  obtain ⟨j, hj⟩ := Option.ne_none_iff_exists'.1 hholds
  obtain ⟨latest, hlatest, hchild, hs⟩ := h.linked.held hc hj
  by_cases hjk : k = j
  · subst hjk
    rw [hk] at hlatest
    cases hlatest
    exact ⟨by rw [hc, Option.bind_some, hj], hs⟩
  · -- Any other instance is older than the held one, which is no younger than the record.
    have holder := (h.linked.latest hlatest hs hk hchild.symm hjk).2
    have hle := h.linked.generation_le hlatest (hchild.symm ▸ hc)
    omega

theorem childExited_signals (h : Sound s) {k : Nat} {inst : Instance}
    (hk : s.instances[k]? = some inst) (ha : s.accepts inst = true)
    (result : Except Failure Unit) (now : Nat) (denied : Denials) :
    ∃ inst', (s.childExited inst result now denied).instances[k]? = some inst' ∧
      inst'.signalled = true := by
  have hdropped := s.dropHandle_getElem?_instances inst.child k
  rw [hk, Option.map_some, (h.accepted hk ha).1] at hdropped
  cases result with
  | ok =>
    simp only [childExited, ha, if_true]
    exact ⟨_, hdropped, by simp⟩
  | error failure =>
    simp only [childExited, ha, if_true]
    have hrest : Changes (fun _ => True) (fun _ => True) (s.accountFor inst.child failure now)
        (s.handleFailure inst.child failure now denied) :=
      handleFailure_restarts (accepts_iff.1 ha).1 fun _ _ => trivial
    rw [← accountFor_instances failure now] at hdropped
    obtain ⟨inst', hk', -, -, hs⟩ := hrest.signalled hdropped (by simp)
    exact ⟨inst', hk', hs⟩

theorem exit_changes (h : Sound s) {k now : Nat} {result : Except Failure Unit}
    (hl : ∀ j inst failure, s.instances[k]? = some inst → inst.live = true →
      s.accepts inst = true → result = .error failure → s.leavesBehind inst.child now denied j →
      strands j) : Changes loses strands s (s.exit k result now denied) := by
  unfold exit
  split
  · rename_i inst hk
    split
    · rename_i hlive
      have hexited : Changes loses strands s (s.childExited inst result now denied) :=
        childExited_changes fun j failure he ha => hl j inst failure hk hlive ha he
      refine hexited.tail (.finish k ?_ rfl rfl rfl)
      intro after hafter
      cases ha : s.accepts inst with
      | true =>
        obtain ⟨inst', hk', hs⟩ := childExited_signals h hk ha result now denied
        rw [hk'] at hafter
        cases hafter
        exact .inl hs
      | false =>
        rw [childExited_refused ha] at hafter ⊢
        rw [hk] at hafter
        cases hafter
        refine .inr fun c hc hr hg => ?_
        have htidy := h.tidy c (List.mem_of_getElem? hc)
        have haccepts := accepts_iff.2 ⟨htidy.active (htidy.holds hr), c, hc, hg, hr⟩
        rw [ha] at haccepts
        cases haccepts
    · exact .refl
  · exact .refl

/-- An action that raises the generation of a running child although it starts no instance. -/
def losesTrack (s : Supervisor) : Action → Nat → Prop
  | .restartChild i denied, j =>
    j = i ∧ (denied i).isSome ∧ ∃ c, s.children[i]? = some c ∧ c.state = .running
  | _, _ => False

/-- An action that records a child as failed although its handle is still held: the failure of
another child, for which it is to be restarted, and cannot. -/
def leavesStranded (s : Supervisor) : Action → Nat → Prop
  | .reportFailure i _ now denied, j => s.ensureChild i = .ok () ∧ s.leavesBehind i now denied j
  | .exit k (.error _) now denied, j => ∃ inst, s.instances[k]? = some inst ∧ inst.live = true ∧
    s.accepts inst = true ∧ s.leavesBehind inst.child now denied j
  | _, _ => False

theorem act_changes (h : Sound s) (a : Action) :
    Changes (s.losesTrack a) (s.leavesStranded a) s (s.act a) := by
  cases a with
  | register task denied => exact register_changes task
  | addDependency child on =>
    simp only [act, addDependency]
    split <;> exact .single (.other rfl rfl rfl)
  | superviseChannel => exact .single (.other rfl rfl rfl)
  | strategy strategy => exact .single (.other rfl rfl rfl)
  | settings dynamic escalates init => exact .single (.other rfl rfl rfl)
  | events channel => exact .single (.other rfl rfl rfl)
  | start denied => exact start_changes
  | beginStop => exact beginStop_changes
  | stopStep j => exact stopStep_changes j
  | restartChild i denied => exact restartChild_changes fun c hc hr hd => ⟨rfl, hd, c, hc, hr⟩
  | reportFailure i failure now denied => exact reportFailure_changes fun j hok hj => ⟨hok, hj⟩
  | exit k result now denied =>
    refine exit_changes h fun j inst failure hk hlive ha he hj => ?_
    subst he
    exact ⟨inst, hk, hlive, ha, hj⟩
  | progress k activity => exact .single (.proceed k activity rfl rfl rfl)
  | wait wanted timeout asked now => exact .single (.other rfl rfl rfl)
  | waitLook w now => exact .single (.other rfl rfl rfl)

theorem Reachable.sound (hs : Reachable s) : Sound s := by
  induction hs with
  | create hc =>
    simp only [Supervisor.create] at hc
    split at hc
    · cases hc
    · cases hc
      exact ⟨.nil, by simp⟩
  | act _ a ih => exact ih.changes (act_changes ih a)

theorem word_ne {m n bound : Nat} (hm : m ≤ bound) (hn : n ≤ bound) (hbound : bound < 2 ^ 64)
    (hne : m ≠ n) : UInt64.ofNat m ≠ UInt64.ofNat n := by
  intro heq
  have hvalues := congrArg UInt64.toNat heq
  rw [UInt64.toNat_ofNat_of_lt' (Nat.lt_of_le_of_lt hm hbound),
    UInt64.toNat_ofNat_of_lt' (Nat.lt_of_le_of_lt hn hbound)] at hvalues
  exact hne hvalues

/-- An instance was not signalled exactly if its handle is held by the record of its child; it is then
the latest of that child, and all others were signalled. No two instances of a child carry the same
generation, nor the same word for it, unless the attempts to start the child overflow that. -/
theorem unsignalled_instance (hs : Reachable s) {k : Nat} {inst : Instance}
    (hk : s.instances[k]? = some inst) : ∃ c, s.children[inst.child]? = some c ∧
    (inst.signalled = false ↔ c.handle = some k) ∧
    ∀ j other, s.instances[j]? = some other → other.child = inst.child → j ≠ k →
      (inst.signalled = false → j < k ∧ other.signalled = true) ∧
      other.generation ≠ inst.generation ∧
      (c.generation < 2 ^ 64 →
        UInt64.ofNat other.generation ≠ UInt64.ofNat inst.generation) := by
  have hlinked := hs.sound.linked
  obtain ⟨c, hc, hle, hheld⟩ := hlinked.known hk
  refine ⟨c, hc, ⟨hheld, fun hh => ?_⟩, fun j other hj hchild hne => ?_⟩
  · obtain ⟨inst', hk', -, hunsignalled⟩ := hlinked.held hc hh
    rw [hk] at hk'
    cases hk'
    exact hunsignalled
  · have hle' := hlinked.generation_le hj (hchild ▸ hc)
    rcases Nat.lt_or_gt_of_ne hne with hlt | hlt
    · obtain ⟨hsignalled, hgrown⟩ := hlinked.superseded hlt hj hk hchild
      exact ⟨fun _ => ⟨hlt, hsignalled⟩, hgrown.ne, fun hbound => word_ne hle' hle hbound hgrown.ne⟩
    · obtain ⟨hsignalled, hgrown⟩ := hlinked.superseded hlt hk hj hchild.symm
      refine ⟨fun hunsignalled => ?_, hgrown.ne', fun hbound => word_ne hle' hle hbound hgrown.ne'⟩
      exact (Bool.false_ne_true (hunsignalled.symm.trans hsignalled)).elim

/-- After a denied restart and a permitted one, both instances live, and only the second is not
signalled. -/
theorem unsignalled_instance_after_restart : ∃ s first second, create "sup" = .ok s ∧
    let t := s.after [.restartChild 0 noDenials, .restartChild 0 fun _ => some .notPermitted,
      .start noDenials, .register ⟨"a", none⟩ noDenials]
    t.instances = [first, second] ∧ first.live = true ∧ second.live = true ∧
    second.signalled = false ∧ first.signalled = true ∧ first.generation ≠ second.generation ∧
    ∃ c, t.children[0]? = some c ∧ c.handle = some 1 := by
  have hcreated : create "sup" = .ok _ := rfl
  have hreachable := (Reachable.create hcreated).after
    [.restartChild 0 noDenials, .restartChild 0 fun _ => some .notPermitted, .start noDenials,
      .register ⟨"a", none⟩ noDenials]
  obtain ⟨c, hc, hheld, hothers⟩ := unsignalled_instance hreachable (k := 1) rfl
  obtain ⟨hearlier, hgeneration, -⟩ := hothers 0 _ rfl rfl Nat.zero_ne_one
  exact ⟨_, _, _, hcreated, rfl, rfl, rfl, rfl, (hearlier rfl).2, hgeneration, c, hc, hheld.1 rfl⟩

end Relay.Supervisor
