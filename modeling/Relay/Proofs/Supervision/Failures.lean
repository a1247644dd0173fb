import Relay.Proofs.Supervision.Records

namespace Relay.Supervisor

open Supervision

variable {loses strands : Nat → Prop} {s t : Supervisor} {i : Nat}

theorem Sound.refuses_signalled (h : Sound s) {k : Nat} {inst : Instance}
    (hk : s.instances[k]? = some inst) (hs : inst.signalled = true) : s.accepts inst = false := by
  cases ha : s.accepts inst with
  | false => rfl
  | true =>
    have hunsignalled := (h.accepted hk ha).2
    rw [hs] at hunsignalled
    cases hunsignalled

/-- An instance is signalled once its handle is given up. From then on nothing but its own thread
takes notice of its exit. -/
theorem signalled_exit_ignored (hs : Reachable s) {k : Nat} {inst : Instance}
    (hk : s.instances[k]? = some inst) :
    (inst.signalled = true ↔ ∀ c ∈ s.children, c.handle ≠ some k) ∧
    (inst.live = true → inst.signalled = true → ∀ result now denied,
      s.childExited inst result now denied = s ∧
      s.exit k result now denied =
        { s with instances := s.instances.modify k fun inst => { inst with live := false } }) := by
  refine ⟨hs.sound.linked.signalled_iff hk, ?_⟩
  intro hlive hsignalled result now denied
  have hrefused := hs.sound.refuses_signalled hk hsignalled
  have hignored := childExited_refused hrefused result now denied
  exact ⟨hignored, by simp [exit, hk, hlive, hignored]⟩

theorem signalled_exit_ignored_after_restart : ∃ s inst, create "sup" = .ok s ∧
    let t := s.after [.restartChild 0 noDenials, .start noDenials, .register ⟨"a", none⟩ noDenials]
    t.instances[0]? = some inst ∧ inst.live = true ∧ inst.signalled = true ∧
    t.childExited inst (.error (.ofMessage "boom")) 0 noDenials = t := by
  have hcreated : create "sup" = .ok _ := rfl
  have hreachable := (Reachable.create hcreated).after
    [.restartChild 0 noDenials, .start noDenials, .register ⟨"a", none⟩ noDenials]
  refine ⟨_, ⟨0, 1, true, true, _⟩, hcreated, rfl, rfl, rfl, ?_⟩
  have hignored := (signalled_exit_ignored hreachable (k := 0) rfl).2 rfl rfl
  exact (hignored (.error (.ofMessage "boom")) 0 noDenials).1

/-- While a child is recorded as running, an instance of the recorded generation has not exited yet,
and its failure would be handled. -/
def Answerable (s : Supervisor) (i : Nat) : Prop :=
  ∀ c, s.children[i]? = some c → c.state = .running → ∃ (k : Nat) (inst : Instance),
    s.instances[k]? = some inst ∧ inst.child = i ∧ inst.generation = c.generation ∧
    inst.live = true ∧ ∀ failure now denied,
      s.childExited inst (.error failure) now denied = s.handleFailure i failure now denied

/-- The instance whose handle a running child holds has not exited, and carries its generation. -/
def Attended (s : Supervisor) (i : Nat) : Prop :=
  ∀ c, s.children[i]? = some c → c.state = .running → ∃ (k : Nat) (inst : Instance),
    c.handle = some k ∧ s.instances[k]? = some inst ∧ inst.generation = c.generation ∧
    inst.live = true

theorem Sound.answerable_iff (h : Sound s) : Answerable s i ↔ Attended s i := by
  constructor
  · intro hanswerable c hc hr
    obtain ⟨k, inst, hk, hi, hg, hlive, -⟩ := hanswerable c hc hr
    have htidy := h.tidy c (List.mem_of_getElem? hc)
    have haccepts := accepts_iff.2 ⟨htidy.active (htidy.holds hr), c, hi ▸ hc, hg.symm, hr⟩
    have hheld := (h.accepted hk haccepts).1
    rw [hi, hc] at hheld
    exact ⟨k, inst, hheld, hk, hg, hlive⟩
  · intro hattended c hc hr
    obtain ⟨k, inst, hheld, hk, hg, hlive⟩ := hattended c hc hr
    obtain ⟨inst', hk', hi, -⟩ := h.linked.held hc hheld
    rw [hk] at hk'
    cases hk'
    have htidy := h.tidy c (List.mem_of_getElem? hc)
    have haccepts := accepts_iff.2 ⟨htidy.active (htidy.holds hr), c, hi ▸ hc, hg.symm, hr⟩
    refine ⟨k, inst, hk, hi, hg, hlive, fun failure now denied => ?_⟩
    simp only [childExited, haccepts, if_true, hi]

theorem Attended.keep (h : Attended s i) (hkept : Kept s.instances t.instances)
    (hc : ∀ c', t.children[i]? = some c' → c'.state = .running → ∃ c, s.children[i]? = some c ∧
      c.state = .running ∧ c.handle = c'.handle ∧ c.generation = c'.generation) : Attended t i := by
  intro c' hc' hr'
  obtain ⟨c, hc, hr, hh, hg⟩ := hc c' hc' hr'
  obtain ⟨k, inst, hheld, hk, hgen, hlive⟩ := h c hc hr
  obtain ⟨inst', hk', -, hgen', hlive', -⟩ := hkept k inst hk
  exact ⟨k, inst', hh ▸ hheld, hk', by rw [hgen', hgen, hg], by rw [hlive', hlive]⟩

theorem Attended.modify (h : Attended s i) (hkept : Kept s.instances t.instances) {j : Nat}
    {f : Child → Child} (hc : t.children = s.children.modify j f)
    (hf : ∀ c, s.children[i]? = some c → j = i → (f c).state = .running → c.state = .running ∧
      c.handle = (f c).handle ∧ c.generation = (f c).generation) : Attended t i := by
  apply h.keep hkept
  intro c' hc' hr
  rw [hc] at hc'
  obtain ⟨c, hget, ⟨hji, rfl⟩ | ⟨-, rfl⟩⟩ := of_getElem?_modify hc'
  · exact ⟨c, hget, hf c hget hji hr⟩
  · exact ⟨_, hget, hr, rfl, rfl⟩

theorem Attended.of_map {f : Child → Child} (hc : t.children = s.children.map f)
    (hf : ∀ c, (f c).state ≠ .running) : Attended t i := by
  intro c' hc' hr
  rw [hc, List.getElem?_map, Option.map_eq_some_iff] at hc'
  obtain ⟨c, -, rfl⟩ := hc'
  exact (hf c hr).elim

theorem Attended.launch (h : Attended s i) {j : Nat} {c : Child}
    (hget : s.children[j]? = some c) : Attended (s.launch j c) i := by
  by_cases hji : j = i
  · subst hji
    intro c' hc' _
    rw [Supervisor.launch, List.getElem?_modify_eq, hget] at hc'
    cases hc'
    have hlatest : (s.launch j c).instances[s.instances.length]? =
        some ⟨j, c.generation + 1, false, true, c.task.firstActivity⟩ := by
      rw [Supervisor.launch, ← dropHandle_instances_length s j, List.getElem?_concat_length]
    exact ⟨_, _, rfl, hlatest, rfl, rfl⟩
  · exact h.modify (.launch s j c) rfl fun _ _ hji' => (hji hji').elim

theorem Attended.finish (h : Attended s i) (hs : Sound s) {k : Nat}
    (hk : ∀ inst, s.instances[k]? = some inst → inst.signalled = true ∨
      ∀ c, s.children[inst.child]? = some c → c.state = .running → c.generation ≠ inst.generation)
    (hc : t.children = s.children)
    (hi : t.instances = s.instances.modify k fun inst => { inst with live := false }) :
    Attended t i := by
  intro c hget hr
  rw [hc] at hget
  obtain ⟨j, inst, hheld, hj, hg, hlive⟩ := h c hget hr
  obtain ⟨inst', hj', hchild, hunsignalled⟩ := hs.linked.held hget hheld
  rw [hj] at hj'
  cases hj'
  have hkj : k ≠ j := by
    intro hkj
    subst hkj
    rcases hk inst hj with hsignalled | hstale
    · rw [hunsignalled] at hsignalled
      cases hsignalled
    · exact hstale c (hchild ▸ hget) hr hg.symm
  refine ⟨j, inst, hheld, ?_, hg, hlive⟩
  rw [hi, List.getElem?_modify_ne _ _ hkj, hj]

theorem Attended.change (h : Attended s i) (hs : Sound s) (hst : Change loses strands s t)
    (hl : ¬ loses i) : Attended t i := by
  cases hst with
  | other _ hc hi | degrade _ _ hc hi =>
    exact h.keep (hi ▸ .refl _) fun c hget hr => ⟨c, hc ▸ hget, hr, rfl, rfl⟩
  | add name task _ hc hi =>
    apply h.keep (hi ▸ .refl _)
    intro c hget hr
    rw [hc] at hget
    rcases of_getElem?_concat hget with hget | ⟨-, rfl⟩
    · exact ⟨c, hget, hr, rfl, rfl⟩
    · cases hr
  | deny j hj _ hc hi =>
    apply h.modify (hi ▸ .refl _) hc
    intro c hget hji hr
    subst hji
    exact (hl (hj c hget hr)).elim
  | launch j c _ hget _ hc hi =>
    have hlaunched := h.launch hget
    unfold Attended at hlaunched ⊢
    rwa [hc, hi]
  | count j _ hc hi => exact h.modify (hi ▸ .refl _) hc fun _ _ _ hr => ⟨hr, rfl, rfl⟩
  | abandon j _ _ _ hc hi => exact h.modify (hi ▸ .refl _) hc fun _ _ _ hr => nomatch hr
  | fail j _ hc hi | complete j _ hc hi =>
    exact h.modify (hi ▸ .dropHandle s j) hc fun _ _ _ hr => nomatch hr
  | finish k hk _ hc hi => exact h.finish hs hk hc hi
  | proceed k activity _ hc hi =>
    exact h.keep (hi ▸ .proceed _ k activity) fun c hget hr => ⟨c, hc ▸ hget, hr, rfl, rfl⟩
  | prepare _ _ hc _ => exact .of_map hc fun _ => nofun
  | withdraw _ hc _ => exact .of_map hc fun _ => nofun
  | halt _ hc _ => exact .of_map hc fun c => c.halted_state

theorem Attended.changes (h : Attended s i) (hs : Sound s) (hst : Changes loses strands s t)
    (hl : ¬ loses i) : Attended t i := by
  induction hst with
  | refl => exact h
  | tail hfirst hlast ih => exact ih.change (hs.changes hfirst) hlast hl

theorem losesTrack_not_answerable (hs : Sound s) {a : Action} (h : s.losesTrack a i) :
    ¬ Answerable (s.act a) i := by
  cases a with
  | restartChild j denied =>
    obtain ⟨rfl, hd, c, hc, hr⟩ := h
    obtain ⟨e, he⟩ := Option.isSome_iff_exists.1 hd
    have htidy := hs.tidy c (List.mem_of_getElem? hc)
    have hactive := htidy.active (htidy.holds hr)
    have hlt := (List.getElem?_eq_some_iff.1 hc).1
    have hact : s.act (.restartChild i denied) = s.modifyChild i Child.raised := by
      simp [act, restartChild, ensureChild, hactive, Nat.not_le.2 hlt, restart,
        spawnChild_denied hc he]
    intro hanswerable
    rw [hact] at hanswerable
    obtain ⟨k, inst, hk, hi, hg, -⟩ := hanswerable c.raised (by simp [modifyChild, hc]) hr
    have hle := hs.linked.generation_le hk (hi ▸ hc)
    change inst.generation = c.generation + 1 at hg
    omega
  | _ => exact h.elim

/-- The failure of a child is answered throughout a history exactly when no restart of it was asked for
and denied while it was running. -/
theorem answerable_throughout_iff {name : String} (hs : create name = .ok s)
    (history : List Action) (i : Nat) :
    (∀ earlier, earlier <:+ history → Answerable (s.after earlier) i) ↔
      ∀ a earlier, a :: earlier <:+ history → ¬ (s.after earlier).losesTrack a i := by
  refine @holds_throughout_iff (fun t => Answerable t i) (fun t a => t.losesTrack a i) s
    (.create hs) ?_ ?_ ?_ history
  · intro c hc
    simp [create_children hs] at hc
  · intro t a ht hanswerable hkeeps
    have hattended := ht.sound.answerable_iff.1 hanswerable
    have hact := act_changes ht.sound a
    exact (ht.sound.changes hact).answerable_iff.2 (hattended.changes ht.sound hact hkeeps)
  · intro t a ht hloses
    exact losesTrack_not_answerable ht.sound hloses

theorem answerable_throughout_start_and_failure : ∃ s, create "sup" = .ok s ∧
    ∀ earlier, earlier <:+ [.exit 0 (.error (.ofMessage "boom")) 0 noDenials, .start noDenials,
      .register ⟨"a", none⟩ noDenials] → Answerable (s.after earlier) 0 := by
  have hcreated : create "sup" = .ok _ := rfl
  refine ⟨_, hcreated, (answerable_throughout_iff hcreated _ 0).2 fun a earlier hsuffix => ?_⟩
  have ha := hsuffix.subset List.mem_cons_self
  simp only [List.mem_cons, List.not_mem_nil, or_false] at ha
  rcases ha with rfl | rfl | rfl <;> exact fun h => h

/-- The generation is raised before the thread turns out to be denied. -/
theorem denied_restart_not_answerable : ∃ s, create "sup" = .ok s ∧
    ¬ Answerable (s.after [.restartChild 0 fun _ => some .notPermitted, .start noDenials,
      .register ⟨"a", none⟩ noDenials]) 0 := by
  have hcreated : create "sup" = .ok _ := rfl
  refine ⟨_, hcreated, ?_⟩
  exact losesTrack_not_answerable ((Reachable.create hcreated).after _).sound ⟨rfl, rfl, _, rfl, rfl⟩

/-- A child that is not recorded as running holds no handle, and its instances that have not exited
were signalled. -/
def Silenced (s : Supervisor) (i : Nat) : Prop :=
  ∀ c, s.children[i]? = some c → c.state ≠ .running → c.handle = none ∧
    ∀ (k : Nat) (inst : Instance), s.instances[k]? = some inst → inst.child = i →
      inst.live = true → inst.signalled = true

/-- A child that is not recorded as running holds no handle. -/
def Released (s : Supervisor) (i : Nat) : Prop :=
  ∀ c, s.children[i]? = some c → c.state ≠ .running → c.handle = none

theorem Sound.silenced_iff (h : Sound s) : Silenced s i ↔ Released s i := by
  constructor
  · exact fun hsilenced c hc hr => (hsilenced c hc hr).1
  · intro hreleased c hc hr
    have hfree := hreleased c hc hr
    refine ⟨hfree, fun k inst hk hi _ => ?_⟩
    refine (h.linked.signalled_iff hk).2 fun d hd hheld => ?_
    obtain ⟨j, hj⟩ := List.mem_iff_getElem?.1 hd
    obtain ⟨inst', hk', hj', -⟩ := h.linked.held hj hheld
    rw [hk] at hk'
    cases hk'
    rw [← hj', hi, hc] at hj
    cases hj
    rw [hfree] at hheld
    cases hheld

theorem Released.modify (h : Released s i) {j : Nat} {f : Child → Child}
    (hc : t.children = s.children.modify j f)
    (hf : ∀ c, s.children[i]? = some c → j = i → (f c).state ≠ .running →
      (c.state ≠ .running → c.handle = none) → (f c).handle = none) : Released t i := by
  intro c' hc' hr
  rw [hc] at hc'
  obtain ⟨c, hget, ⟨hji, rfl⟩ | ⟨-, rfl⟩⟩ := of_getElem?_modify hc'
  · exact hf c hget hji hr (h c hget)
  · exact h _ hget hr

theorem Released.of_map {f : Child → Child} (hc : t.children = s.children.map f)
    (hf : ∀ c ∈ s.children, (f c).handle = none) : Released t i := by
  intro c' hc' _
  rw [hc, List.getElem?_map, Option.map_eq_some_iff] at hc'
  obtain ⟨c, hget, rfl⟩ := hc'
  exact hf c (List.mem_of_getElem? hget)

theorem Released.change (h : Released s i) (hs : Sound s) (hst : Change loses strands s t)
    (hl : ¬ strands i) : Released t i := by
  cases hst with
  | other _ hc _ | degrade _ _ hc _ | finish _ _ _ hc _ | proceed _ _ _ hc _ =>
    exact fun c hget => h c (hc ▸ hget)
  | add name task _ hc _ =>
    intro c hget hr
    rw [hc] at hget
    rcases of_getElem?_concat hget with hget | ⟨-, rfl⟩
    · exact h c hget hr
    · rfl
  | deny j _ _ hc _ | count j _ hc _ => exact h.modify hc fun c _ _ hr hfree => hfree hr
  | launch j c _ _ _ hc _ => exact h.modify hc fun c _ _ hr _ => (hr rfl).elim
  | abandon j hj _ _ hc _ =>
    apply h.modify hc
    intro c hget hji _ _
    subst hji
    by_contra hheld
    exact hl (hj c hget hheld)
  | fail j _ hc _ | complete j _ hc _ => exact h.modify hc fun _ _ _ _ _ => rfl
  | prepare ha _ hc _ =>
    apply Released.of_map hc
    intro c hm
    by_contra hheld
    have hactive := (hs.tidy c hm).active hheld
    rw [ha] at hactive
    cases hactive
  | withdraw _ hc _ => exact .of_map hc fun _ _ => rfl
  | halt _ hc _ => exact .of_map hc fun c _ => c.halted_handle

theorem Released.changes (h : Released s i) (hs : Sound s) (hst : Changes loses strands s t)
    (hl : ¬ strands i) : Released t i := by
  induction hst with
  | refl => exact h
  | tail hfirst hlast ih => exact ih.change (hs.changes hfirst) hlast hl

/-- A target whose restart is denied is recorded as failed, and its handle is left to it. -/
theorem restartTargets_denied {denied : Denials} (indices : List Nat) (s : Supervisor) {c : Child}
    (hc : s.children[i]? = some c) (hd : (denied i).isSome) :
    ∃ c', (indices.foldl (restartTarget denied) s).children[i]? = some c' ∧ c'.handle = c.handle ∧
      (c.state ≠ .running ∨ i ∈ indices → c'.state ≠ .running) := by
  -- Once the child is recorded as failed, later targets leave it so, itself included.
  induction indices generalizing s c with
  | nil => exact ⟨c, hc, rfl, fun h => h.resolve_right List.not_mem_nil⟩
  | cons j indices ih =>
    have hfirst : (restartTarget denied s j).children[i]? =
        some (if j = i then c.raised.faulty else c) := by
      rw [restartTarget_children, List.getElem?_modify, hc]
      by_cases hji : j = i
      · subst hji
        simp [hd]
      · simp [hji]
    obtain ⟨c', hc', hh, hr⟩ := ih _ hfirst
    by_cases hji : j = i
    · rw [if_pos hji] at hh hr
      exact ⟨c', hc', hh, fun _ => hr (.inl nofun)⟩
    · rw [if_neg hji] at hh hr
      refine ⟨c', hc', hh, fun h => hr (h.imp_right fun hm => ?_)⟩
      exact (List.mem_cons.1 hm).resolve_left (Ne.symm hji)

theorem leavesBehind_strands {j now : Nat} {denied : Denials} (failure : Failure)
    (h : s.leavesBehind j now denied i) : ∃ c,
    (s.handleFailure j failure now denied).children[i]? = some c ∧ c.handle ≠ none ∧
      c.state ≠ .running := by
  obtain ⟨hadmits, hij, htarget, hd, c, hc, hheld⟩ := h
  have haccount : (s.accountFor j failure now).children[i]? = some c := by
    rw [accountFor_children, List.getElem?_modify_ne _ _ hij.symm, hc]
  obtain ⟨c', hc', hh, hr⟩ := restartTargets_denied (s.targets j) _ haccount hd
  rw [handleFailure_eq, if_pos hadmits]
  exact ⟨c', hc', hh ▸ hheld, hr (.inr htarget)⟩

theorem leavesStranded_not_silenced {a : Action} (h : s.leavesStranded a i) :
    ¬ Silenced (s.act a) i := by
  have hstranded : ∃ c, (s.act a).children[i]? = some c ∧ c.handle ≠ none ∧
      c.state ≠ .running := by
    cases a with
    | reportFailure j failure now denied =>
      obtain ⟨hok, hbehind⟩ := h
      simp only [act, reportFailure, hok]
      exact leavesBehind_strands failure hbehind
    | exit k result now denied =>
      cases result with
      | ok => exact h.elim
      | error failure =>
        obtain ⟨inst, hk, hlive, ha, hbehind⟩ := h
        simp only [act, exit, hk, hlive, if_true, childExited, ha]
        exact leavesBehind_strands failure hbehind
    | _ => exact h.elim
  obtain ⟨c, hc, hheld, hr⟩ := hstranded
  exact fun hsilenced => hheld (hsilenced c hc hr).1

/-- A child that does not run has no instance that was not signalled, throughout a history, exactly
when none was to be restarted for the failure of another while its handle was held, and denied. -/
theorem silenced_throughout_iff {name : String} (hs : create name = .ok s)
    (history : List Action) (i : Nat) :
    (∀ earlier, earlier <:+ history → Silenced (s.after earlier) i) ↔
      ∀ a earlier, a :: earlier <:+ history → ¬ (s.after earlier).leavesStranded a i := by
  refine @holds_throughout_iff (fun t => Silenced t i) (fun t a => t.leavesStranded a i) s
    (.create hs) ?_ ?_ ?_ history
  · intro c hc
    simp [create_children hs] at hc
  · intro t a ht hsilenced hkeeps
    have hreleased := ht.sound.silenced_iff.1 hsilenced
    have hact := act_changes ht.sound a
    exact (ht.sound.changes hact).silenced_iff.2 (hreleased.changes ht.sound hact hkeeps)
  · intro t a _ hstrands
    exact leavesStranded_not_silenced hstrands

theorem silenced_throughout_restart : ∃ s, create "sup" = .ok s ∧
    ∀ earlier, earlier <:+ [.restartChild 0 noDenials, .start noDenials,
      .register ⟨"a", none⟩ noDenials] → Silenced (s.after earlier) 0 := by
  have hcreated : create "sup" = .ok _ := rfl
  refine ⟨_, hcreated, (silenced_throughout_iff hcreated _ 0).2 fun a earlier hsuffix => ?_⟩
  have ha := hsuffix.subset List.mem_cons_self
  simp only [List.mem_cons, List.not_mem_nil, or_false] at ha
  rcases ha with rfl | rfl | rfl <;> exact fun h => h

/-- The record of the second child is rewritten for the failure of the first, and keeps its handle. -/
theorem denied_target_not_silenced : ∃ s, create "sup" = .ok s ∧
    ¬ Silenced (s.after [.reportFailure 0 (.ofMessage "boom") 0 fun i =>
        if i = 1 then some .notPermitted else none,
      .start noDenials, .strategy (RestartStrategy.standard.withPolicy .oneForAll),
      .register ⟨"b", none⟩ noDenials, .register ⟨"a", none⟩ noDenials]) 1 := by
  have hcreated : create "sup" = .ok _ := rfl
  refine ⟨_, hcreated, leavesStranded_not_silenced ⟨rfl, rfl, nofun, ?_, rfl, _, rfl, nofun⟩⟩
  decide

end Relay.Supervisor
