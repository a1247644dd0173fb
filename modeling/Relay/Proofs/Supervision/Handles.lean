import Relay.Proofs.Places
import Relay.Supervision.Children

namespace Relay.Supervision

/-- An instance that was not signalled is the latest of its child, which holds its handle; the
generations of the instances of a child grow, and never pass the recorded one. -/
structure Linked (children : List Child) (instances : List Instance) : Prop where
  known : ∀ {k : Nat} {inst : Instance}, instances[k]? = some inst →
    ∃ c, children[inst.child]? = some c ∧ inst.generation ≤ c.generation ∧
      (inst.signalled = false → c.handle = some k)
  held : ∀ {i k : Nat} {c : Child}, children[i]? = some c → c.handle = some k →
    ∃ inst, instances[k]? = some inst ∧ inst.child = i ∧ inst.signalled = false
  superseded : ∀ {j k : Nat} {earlier later : Instance}, j < k → instances[j]? = some earlier →
    instances[k]? = some later → earlier.child = later.child →
    earlier.signalled = true ∧ earlier.generation < later.generation

namespace Linked

variable {children children' : List Child} {instances : List Instance}

theorem nil : Linked [] [] := by
  constructor <;> simp

theorem records (h : Linked children instances)
    (hkept : ∀ {i : Nat} {c : Child}, children[i]? = some c →
      ∃ c', children'[i]? = some c' ∧ c'.handle = c.handle ∧ c.generation ≤ c'.generation)
    (hback : ∀ {i k : Nat} {c' : Child}, children'[i]? = some c' → c'.handle = some k →
      ∃ c, children[i]? = some c ∧ c.handle = some k) : Linked children' instances where
  known hk := by
    obtain ⟨c, hc, hg, hs⟩ := h.known hk
    obtain ⟨c', hc', hh, hg'⟩ := hkept hc
    exact ⟨c', hc', Nat.le_trans hg hg', fun hn => hh.trans (hs hn)⟩
  held hc hh := by
    obtain ⟨c, hc, hh⟩ := hback hc hh
    exact h.held hc hh
  superseded := h.superseded

theorem modify_child (h : Linked children instances) (i : Nat) {f : Child → Child}
    (hf : ∀ c, (f c).handle = c.handle ∧ c.generation ≤ (f c).generation) :
    Linked (children.modify i f) instances := by
  apply h.records
  · intro j c hc
    refine ⟨if i = j then f c else c, by simp [List.getElem?_modify, hc], ?_⟩
    split
    · exact hf c
    · exact ⟨rfl, Nat.le_refl _⟩
  · intro j k c' hc' hh
    obtain ⟨c, hc, ⟨-, rfl⟩ | ⟨-, rfl⟩⟩ := of_getElem?_modify hc'
    · exact ⟨c, hc, (hf c).1.symm.trans hh⟩
    · exact ⟨_, hc, hh⟩

theorem map_children (h : Linked children instances) {f : Child → Child}
    (hf : ∀ c, (f c).handle = c.handle ∧ c.generation ≤ (f c).generation) :
    Linked (children.map f) instances := by
  apply h.records
  · intro i c hc
    exact ⟨f c, by simp [hc], hf c⟩
  · intro i k c' hc' hh
    simp only [List.getElem?_map, Option.map_eq_some_iff] at hc'
    obtain ⟨c, hc, rfl⟩ := hc'
    exact ⟨c, hc, (hf c).1.symm.trans hh⟩

theorem add_child (h : Linked children instances) {c : Child} (hc : c.handle = none) :
    Linked (children ++ [c]) instances := by
  apply h.records
  · intro i d hd
    have hi := (List.getElem?_eq_some_iff.1 hd).1
    exact ⟨d, by rw [List.getElem?_append_left hi, hd], rfl, Nat.le_refl _⟩
  · intro i k d hd hh
    rcases of_getElem?_concat hd with hd | ⟨-, rfl⟩
    · exact ⟨d, hd, hh⟩
    · rw [hc] at hh
      cases hh

theorem modify_instance (h : Linked children instances) (k : Nat) {f : Instance → Instance}
    (hf : ∀ inst, (f inst).child = inst.child ∧ (f inst).generation = inst.generation ∧
      (f inst).signalled = inst.signalled) : Linked children (instances.modify k f) := by
  have hsame : ∀ {j : Nat} {inst' : Instance}, (instances.modify k f)[j]? = some inst' → ∃ inst,
      instances[j]? = some inst ∧ inst'.child = inst.child ∧ inst'.generation = inst.generation ∧
      inst'.signalled = inst.signalled := by
    intro j inst' hj'
    obtain ⟨inst, hj, ⟨-, rfl⟩ | ⟨-, rfl⟩⟩ := of_getElem?_modify hj'
    · exact ⟨inst, hj, hf inst⟩
    · exact ⟨_, hj, rfl, rfl, rfl⟩
  constructor
  · intro j inst' hj
    obtain ⟨inst, hj, hc, hg, hs⟩ := hsame hj
    rw [hc, hg, hs]
    exact h.known hj
  · intro i j c hc hh
    obtain ⟨inst, hj, hi, hs⟩ := h.held hc hh
    refine ⟨if k = j then f inst else inst, by simp [List.getElem?_modify, hj], ?_⟩
    split
    · exact ⟨(hf inst).1.trans hi, (hf inst).2.2.trans hs⟩
    · exact ⟨hi, hs⟩
  · intro i j earlier' later' hlt hi hj hchild
    obtain ⟨earlier, hi, hc, hg, hs⟩ := hsame hi
    obtain ⟨later, hj, hc', hg', -⟩ := hsame hj
    rw [hs, hg, hg']
    exact h.superseded hlt hi hj (hc.symm.trans (hchild.trans hc'))

/-- Any other instance of a child is older than the one that was not signalled. -/
theorem latest (h : Linked children instances) {j k : Nat} {inst other : Instance}
    (hk : instances[k]? = some inst) (hs : inst.signalled = false)
    (hj : instances[j]? = some other) (hc : other.child = inst.child) (hne : j ≠ k) :
    other.signalled = true ∧ other.generation < inst.generation := by
  rcases Nat.lt_or_gt_of_ne hne with hlt | hlt
  · exact h.superseded hlt hj hk hc
  · have hsig := (h.superseded hlt hk hj hc.symm).1
    rw [hs] at hsig
    cases hsig

theorem held_once (h : Linked children instances) {i j k : Nat} {c d : Child}
    (hc : children[i]? = some c) (hk : c.handle = some k) (hd : children[j]? = some d)
    (hk' : d.handle = some k) : i = j := by
  obtain ⟨inst, hi, hci, -⟩ := h.held hc hk
  obtain ⟨inst', hi', hcj, -⟩ := h.held hd hk'
  rw [hi] at hi'
  cases hi'
  exact hci.symm.trans hcj

theorem generation_le (h : Linked children instances) {k : Nat} {inst : Instance} {c : Child}
    (hk : instances[k]? = some inst) (hc : children[inst.child]? = some c) :
    inst.generation ≤ c.generation := by
  obtain ⟨d, hd, hg, -⟩ := h.known hk
  rw [hc] at hd
  cases hd
  exact hg

/-- Whether an instance was signalled is whether its handle has been given up. -/
theorem signalled_iff (h : Linked children instances) {k : Nat} {inst : Instance}
    (hk : instances[k]? = some inst) :
    inst.signalled = true ↔ ∀ c ∈ children, c.handle ≠ some k := by
  constructor
  · intro hs c hc hh
    obtain ⟨i, hi⟩ := List.mem_iff_getElem?.1 hc
    obtain ⟨inst', hk', -, hs'⟩ := h.held hi hh
    rw [hk] at hk'
    cases hk'
    rw [hs] at hs'
    cases hs'
  · intro hnone
    obtain ⟨c, hc, -, hh⟩ := h.known hk
    cases hs : inst.signalled with
    | true => rfl
    | false => exact (hnone c (List.mem_of_getElem? hc) (hh hs)).elim

theorem launch (h : Linked children instances) {i : Nat} {c : Child} {f : Child → Child}
    {fresh : Instance} (hc : children[i]? = some c) (hfree : c.handle = none)
    (hf : (f c).handle = some instances.length) (hg : c.generation ≤ (f c).generation)
    (hchild : fresh.child = i) (hfresh : fresh.generation ≤ (f c).generation)
    (hs : fresh.signalled = false)
    (hnew : ∀ {k : Nat} {inst : Instance}, instances[k]? = some inst → inst.child = i →
      inst.generation < fresh.generation) :
    Linked (children.modify i f) (instances ++ [fresh]) := by
  have hsignalled : ∀ {k : Nat} {inst : Instance}, instances[k]? = some inst → inst.child = i →
      inst.signalled = true := by
    intro k inst hk hi
    obtain ⟨d, hd, -, hh⟩ := h.known hk
    rw [hi, hc] at hd
    cases hd
    cases hsig : inst.signalled with
    | true => rfl
    | false =>
      have hheld := hh hsig
      rw [hfree] at hheld
      cases hheld
  have hat : (children.modify i f)[i]? = some (f c) := by simp [hc]
  constructor
  · intro k inst hk
    rcases of_getElem?_concat hk with hk | ⟨rfl, rfl⟩
    · by_cases hi : inst.child = i
      · refine ⟨f c, hi ▸ hat, ?_, ?_⟩
        · obtain ⟨d, hd, hle, -⟩ := h.known hk
          rw [hi, hc] at hd
          cases hd
          exact Nat.le_trans hle hg
        · intro hn
          rw [hsignalled hk hi] at hn
          cases hn
      · rw [List.getElem?_modify_ne _ _ (Ne.symm hi)]
        exact h.known hk
    · exact ⟨f c, hchild ▸ hat, hfresh, fun _ => hf⟩
  · intro j k d hd hh
    by_cases hj : i = j
    · subst hj
      rw [hat] at hd
      cases hd
      rw [hf] at hh
      cases hh
      exact ⟨fresh, List.getElem?_concat_length, hchild, hs⟩
    · rw [List.getElem?_modify_ne _ _ hj] at hd
      obtain ⟨inst, hk, hi, hsig⟩ := h.held hd hh
      have hlt := (List.getElem?_eq_some_iff.1 hk).1
      exact ⟨inst, by rw [List.getElem?_append_left hlt, hk], hi, hsig⟩
  · intro j k earlier later hlt hj hk hsame
    rcases of_getElem?_concat hk with hk | ⟨rfl, rfl⟩
    · rcases of_getElem?_concat hj with hj | ⟨rfl, -⟩
      · exact h.superseded hlt hj hk hsame
      · have hlt' := (List.getElem?_eq_some_iff.1 hk).1
        omega
    · rcases of_getElem?_concat hj with hj | ⟨rfl, rfl⟩
      · have hi := hsame.trans hchild
        exact ⟨hsignalled hj hi, hnew hj hi⟩
      · omega

end Linked

def Child.released (c : Child) : Child := { c with handle := none }

/-- A child of which another instance was about to be started. -/
def Child.raised (c : Child) : Child := { c with generation := c.generation + 1 }

def Child.launched (c : Child) (k : Nat) : Child :=
  { c.raised with handle := some k, state := .running, failed := false }

end Relay.Supervision

namespace Relay.Supervisor

open Supervision

variable (s : Supervisor) (i : Nat)

theorem dropHandle_children :
    (s.dropHandle i).children = s.children.modify i Child.released := by
  unfold dropHandle
  split
  · rfl
  · rename_i hnone
    apply List.ext_getElem?
    intro j
    by_cases hj : i = j
    · subst hj
      cases hc : s.children[i]? with
      | none => simp [hc]
      | some c =>
        simp only [hc, Option.bind_some] at hnone
        simp [hc, Child.released, ← hnone]
    · rw [List.getElem?_modify_ne _ _ hj]

theorem dropHandle_getElem?_instances (k : Nat) :
    (s.dropHandle i).instances[k]? = s.instances[k]?.map fun inst =>
      { inst with signalled := inst.signalled || s.children[i]?.bind (·.handle) == some k } := by
  unfold dropHandle
  split
  · rename_i held hheld
    rw [hheld]
    change (s.instances.modify held _)[k]? = _
    rw [List.getElem?_modify]
    by_cases hk : held = k
    · simp [hk]
    · simp only [if_neg hk, Option.some_beq_some, beq_eq_false_iff_ne.2 hk,
        Bool.or_false, id_map']
      rw [Option.map_id']
  · rename_i hnone
    simp [hnone]

theorem dropHandle_eq : s.dropHandle i =
    { s with children := (s.dropHandle i).children, instances := (s.dropHandle i).instances } := by
  unfold dropHandle
  split <;> rfl

@[simp] theorem dropHandle_instances_length :
    (s.dropHandle i).instances.length = s.instances.length := by
  unfold dropHandle
  split
  · simp [signal, modifyChild]
  · rfl

variable {s}

theorem dropHandle_linked (h : Linked s.children s.instances) :
    Linked (s.dropHandle i).children (s.dropHandle i).instances := by
  have hback {k : Nat} {inst' : Instance} (hk : (s.dropHandle i).instances[k]? = some inst') :
      ∃ inst, s.instances[k]? = some inst ∧ inst'.child = inst.child ∧
        inst'.generation = inst.generation ∧
        inst'.signalled = (inst.signalled || s.children[i]?.bind (·.handle) == some k) := by
    rw [dropHandle_getElem?_instances, Option.map_eq_some_iff] at hk
    obtain ⟨inst, hk, rfl⟩ := hk
    exact ⟨inst, hk, rfl, rfl, rfl⟩
  rw [dropHandle_children]
  constructor
  · intro k inst' hk
    obtain ⟨inst, hk, hc, hg, hs⟩ := hback hk
    obtain ⟨c, hc', hle, hh⟩ := h.known hk
    rw [hc, hg, hs, List.getElem?_modify]
    refine ⟨_, by rw [hc']; rfl, ?_⟩
    by_cases hi : i = inst.child
    · subst hi
      refine ⟨by simpa [Child.released] using hle, ?_⟩
      intro hn
      simp only [Bool.or_eq_false_iff, beq_eq_false_iff_ne] at hn
      have hheld := hh hn.1
      rw [hc', Option.bind_some] at hn
      exact (hn.2 hheld).elim
    · simp only [if_neg hi]
      exact ⟨hle, fun hn => hh (Bool.or_eq_false_iff.1 hn).1⟩
  · intro j k c' hj' hk
    obtain ⟨c, hj, ⟨-, rfl⟩ | ⟨hij, rfl⟩⟩ := of_getElem?_modify hj'
    · cases hk
    · obtain ⟨inst, hinst, hc, hs⟩ := h.held hj hk
      have hne : s.children[i]?.bind (·.handle) ≠ some k := by
        intro hi
        obtain ⟨d, hd, hdk⟩ := Option.bind_eq_some_iff.1 hi
        exact hij (h.held_once hd hdk hj hk)
      have hafter := s.dropHandle_getElem?_instances i k
      rw [hinst, Option.map_some] at hafter
      exact ⟨_, hafter, hc, by simp [hs, hne]⟩
  · intro j k earlier' later' hlt hj hk hsame
    obtain ⟨earlier, hj, hc, hg, hs⟩ := hback hj
    obtain ⟨later, hk, hc', hg', -⟩ := hback hk
    obtain ⟨hsig, hgen⟩ := h.superseded hlt hj hk (by rw [← hc, ← hc', hsame])
    rw [hs, hg, hg', hsig]
    exact ⟨rfl, hgen⟩

theorem dropHandle_foldl_getElem?_children (indices : List Nat) (s : Supervisor) (j : Nat) :
    (indices.foldl dropHandle s).children[j]? =
      s.children[j]?.map fun c => if j ∈ indices then c.released else c := by
  induction indices generalizing s with
  | nil => simp
  | cons i indices ih =>
    rw [List.foldl_cons, ih, dropHandle_children, List.getElem?_modify]
    cases s.children[j]? with
    | none => rfl
    | some c =>
      by_cases hj : i = j
      · subst hj
        simp [Child.released]
      · simp [hj, Ne.symm hj]

theorem dropHandles_children (s : Supervisor) :
    s.dropHandles.children = s.children.map Child.released := by
  apply List.ext_getElem?
  intro j
  rw [dropHandles, dropHandle_foldl_getElem?_children, List.getElem?_map]
  cases hc : s.children[j]? with
  | none => rfl
  | some c =>
    have hj := (List.getElem?_eq_some_iff.1 hc).1
    simp [hj]

theorem dropHandles_induction {P : Supervisor → Prop}
    (hdrop : ∀ t i, P t → P (t.dropHandle i)) (hs : P s) : P s.dropHandles := by
  have hfold (indices : List Nat) : ∀ t, P t → P (indices.foldl dropHandle t) := by
    induction indices with
    | nil => exact fun _ ht => ht
    | cons i indices ih => exact fun t ht => ih _ (hdrop t i ht)
  exact hfold _ s hs

theorem dropHandles_eq (s : Supervisor) : s.dropHandles =
    { s with children := s.dropHandles.children, instances := s.dropHandles.instances } := by
  refine dropHandles_induction (P := fun t => t = { s with
    children := t.children, instances := t.instances }) (fun t i ht => ?_) rfl
  rw [dropHandle_eq, ht]

theorem dropHandles_instances_length (s : Supervisor) :
    s.dropHandles.instances.length = s.instances.length :=
  dropHandles_induction (P := fun t => t.instances.length = s.instances.length)
    (fun t i ht => (t.dropHandle_instances_length i).trans ht) rfl

theorem dropHandles_linked (h : Linked s.children s.instances) :
    Linked s.dropHandles.children s.dropHandles.instances :=
  dropHandles_induction (P := fun t => Linked t.children t.instances)
    (fun _ i ht => dropHandle_linked i ht) h

theorem release_linked (h : Linked s.children s.instances) {f : Child → Child}
    (hf : ∀ c, (f c).handle = c.handle ∧ c.generation ≤ (f c).generation) :
    Linked (s.children.modify i fun c => f c.released) (s.dropHandle i).instances := by
  have hmodified := (dropHandle_linked i h).modify_child i hf
  rwa [dropHandle_children, List.modify_modify_eq] at hmodified

theorem releaseAll_linked (h : Linked s.children s.instances) {f : Child → Child}
    (hf : ∀ c, (f c).handle = c.handle ∧ c.generation ≤ (f c).generation) :
    Linked (s.children.map fun c => f c.released) s.dropHandles.instances := by
  have hmapped := (dropHandles_linked h).map_children hf
  rwa [dropHandles_children, List.map_map] at hmapped

theorem dropHandle_instances_congr {t : Supervisor} (hi : t.instances = s.instances)
    (hc : t.children[i]?.bind (·.handle) = s.children[i]?.bind (·.handle)) :
    (t.dropHandle i).instances = (s.dropHandle i).instances := by
  apply List.ext_getElem?
  intro k
  rw [dropHandle_getElem?_instances, dropHandle_getElem?_instances, hi, hc]

variable {i}

def launch (s : Supervisor) (i : Nat) (c : Child) : Supervisor :=
  { s with
    children := s.children.modify i (·.launched s.instances.length)
    instances :=
      (s.dropHandle i).instances ++ [⟨i, c.generation + 1, false, true, c.task.firstActivity⟩]
    tracked := (Spawn.reap s.hasExited s.tracked).2 ++ [s.instances.length] }

theorem spawnChild_denied {c : Child} {denied : Denials} {e : Spawn.Error}
    (hc : s.children[i]? = some c) (he : denied i = some e) :
    s.spawnChild i denied = (.error (.spawnFailed c.name.text e), s.modifyChild i Child.raised) := by
  have hraised : (s.children.modify i fun d => { d with generation := c.generation + 1 }) =
      s.children.modify i Child.raised := modify_congr hc rfl
  simp only [spawnChild, hc, he, modifyChild, hraised]

theorem spawnChild_permitted {c : Child} {denied : Denials} (hc : s.children[i]? = some c)
    (hd : denied i = none) : s.spawnChild i denied = (.ok (), s.launch i c) := by
  simp only [spawnChild, hc, hd]
  have hinstances : ((s.modifyChild i fun d => { d with generation := c.generation + 1 }).dropHandle
      i).instances = (s.dropHandle i).instances := by
    apply dropHandle_instances_congr
    · rfl
    · simp [modifyChild, hc]
  have hchildren : ((s.children.modify i fun d => { d with generation := c.generation + 1 }).modify i
      Child.released).modify i (fun d =>
        { d with handle := some s.instances.length, state := .running, failed := false }) =
      s.children.modify i (·.launched s.instances.length) := by
    rw [List.modify_modify_eq, List.modify_modify_eq]
    exact modify_congr hc rfl
  rw [dropHandle_eq, hinstances, dropHandle_children]
  exact congrArg (fun children => (Except.ok (), { s.launch i c with children })) hchildren

theorem launch_linked (h : Linked s.children s.instances) {c : Child}
    (hc : s.children[i]? = some c) :
    Linked (s.launch i c).children (s.launch i c).instances := by
  have hdropped := dropHandle_linked i h
  have hrecord : (s.dropHandle i).children[i]? = some c.released := by
    simp [dropHandle_children, hc]
  have hchildren : (s.launch i c).children =
      (s.dropHandle i).children.modify i (·.launched s.instances.length) := by
    rw [dropHandle_children, List.modify_modify_eq]
    rfl
  rw [hchildren]
  apply hdropped.launch hrecord rfl
  · simp [Child.launched]
  · exact Nat.le_succ _
  · rfl
  · exact Nat.le_refl _
  · rfl
  · intro k inst hk hi
    have hat : (s.dropHandle i).children[inst.child]? = some c.released := by rw [hi, hrecord]
    have hle := hdropped.generation_le hk hat
    exact Nat.lt_succ_of_le hle

end Relay.Supervisor
