import Relay.Proofs.Supervision.Cascade
import Relay.Proofs.Supervision.Confinement

namespace Relay.Dependencies

open Relation

variable {d e : Dependencies} {child on i j : Nat}

def Added (d : Dependencies) (child on : Nat) : Prop := d.hasEdge child on = true

theorem hasEdge_eq (d : Dependencies) (hi : i < d.rows.length) :
    d.hasEdge i j = (d.rows[i][j]?).getD false := by
  rw [hasEdge, List.getElem?_eq_getElem hi]
  rfl

theorem hasEdge_beyond (d : Dependencies) (hi : d.rows.length ≤ i) : d.hasEdge i j = false := by
  rw [hasEdge, List.getElem?_eq_none hi]
  rfl

theorem hasEdge_grow (d : Dependencies) (i j : Nat) : d.grow.hasEdge i j = d.hasEdge i j := by
  by_cases hi : i < d.rows.length
  · rw [hasEdge_eq d hi, hasEdge, grow, List.getElem?_append_left (by rwa [List.length_map]),
      List.getElem?_map, List.getElem?_eq_getElem hi]
    simp only [Option.map_some, Option.bind_some, List.getElem?_append]
    split
    · rfl
    · rename_i hj
      rw [List.getElem?_eq_none (not_lt.1 hj)]
      cases j - d.rows[i].length <;> rfl
  · rw [hasEdge_beyond d (not_lt.1 hi), hasEdge, grow,
      List.getElem?_append_right (by rw [List.length_map]; exact not_lt.1 hi)]
    cases i - (d.rows.map (· ++ [false])).length with
    | zero =>
      simp only [List.getElem?_cons_zero, Option.bind_some, List.getElem?_replicate]
      split <;> rfl
    | succ _ => rfl

/-- The marks form a square, no child depends on itself through those added, and the dependencies added
replace the chain as soon as there are any. -/
structure WellFormed (d : Dependencies) : Prop where
  square : ∀ row ∈ d.rows, row.length = d.rows.length
  acyclic : ∀ node, ¬TransGen d.Added node node
  explicit : d.isExplicit = true ↔ ∃ child on, d.Added child on

theorem WellFormed.bounded (hd : WellFormed d) (h : d.Added i j) : i < d.size ∧ j < d.size := by
  rw [Added] at h
  by_cases hi : i < d.rows.length
  · refine ⟨hi, ?_⟩
    rw [hasEdge_eq d hi] at h
    by_contra hj
    rw [List.getElem?_eq_none] at h
    · cases h
    · rw [hd.square _ (List.getElem_mem hi)]
      exact not_lt.1 hj
  · rw [hasEdge_beyond d (not_lt.1 hi)] at h
    cases h

theorem WellFormed.added_mark (hd : WellFormed d) (hchild : child < d.size) (hon : on < d.size) :
    (d.mark child on).Added i j ↔ d.Added i j ∨ i = child ∧ j = on := by
  obtain ⟨row, hrow⟩ : ∃ row, d.rows[child]? = some row := ⟨_, List.getElem?_eq_getElem hchild⟩
  have hlength : on < row.length := hd.square row (List.mem_of_getElem? hrow) ▸ hon
  simp only [Added, hasEdge, mark]
  by_cases hi : child = i
  · subst hi
    simp only [List.getElem?_modify_eq, hrow, Option.map_eq_map, Option.map_some, Option.bind_some]
    by_cases hj : on = j
    · subst hj
      simp [hlength]
    · simp [List.getElem?_set_ne hj, Ne.symm hj]
  · rw [List.getElem?_modify_ne _ _ hi]
    simp [Ne.symm hi]

theorem WellFormed.ext (hd : WellFormed d) (he : WellFormed e) (hsize : d.size = e.size)
    (h : ∀ i j, d.Added i j ↔ e.Added i j) : d = e := by
  have hrows : d.rows = e.rows := by
    apply List.ext_getElem hsize
    intro i hi hi'
    have hlength : d.rows[i].length = e.rows[i].length := by
      rw [hd.square _ (List.getElem_mem hi), he.square _ (List.getElem_mem hi')]
      exact hsize
    apply List.ext_getElem hlength
    intro j hj hj'
    have hcell := h i j
    rw [Added, Added, hasEdge_eq d hi, hasEdge_eq e hi', List.getElem?_eq_getElem hj,
      List.getElem?_eq_getElem hj'] at hcell
    exact Bool.eq_iff_iff.2 hcell
  have hexplicit : d.isExplicit = e.isExplicit := by
    rw [Bool.eq_iff_iff, hd.explicit, he.explicit]
    simp only [h]
  cases d
  cases e
  cases hrows
  cases hexplicit
  rfl

theorem transGen_insert {r : Nat → Nat → Prop} {start goal : Nat}
    (h : TransGen (fun i j => r i j ∨ i = child ∧ j = on) start goal) :
    TransGen r start goal ∨ ReflTransGen r start child ∧ ReflTransGen r on goal := by
  induction h with
  | single hlast =>
    rcases hlast with hlast | ⟨rfl, rfl⟩
    · exact .inl (.single hlast)
    · exact .inr ⟨.refl, .refl⟩
  | tail _ hlast ih =>
    rcases hlast with hlast | ⟨rfl, rfl⟩
    · exact ih.imp (·.tail hlast) fun ⟨hto, hfrom⟩ => ⟨hto, hfrom.tail hlast⟩
    · exact .inr ⟨ih.elim (·.to_reflTransGen) (·.1), .refl⟩

theorem WellFormed.empty : WellFormed .empty where
  square := nofun
  acyclic node h := by
    cases TransGen.head'_iff.1 h with
    | intro _ hstep => cases hstep.1
  explicit := iff_of_false nofun fun ⟨_, _, h⟩ => nomatch h

theorem WellFormed.grow (hd : WellFormed d) : WellFormed d.grow := by
  have hadded : d.grow.Added = d.Added := by
    funext i j
    rw [Added, Added, hasEdge_grow]
  refine ⟨fun row hrow => ?_, hadded ▸ hd.acyclic, hadded ▸ hd.explicit⟩
  have hsize : d.grow.rows.length = d.rows.length + 1 := size_grow d
  rw [hsize]
  rw [Dependencies.grow, List.mem_append, List.mem_singleton, List.mem_map] at hrow
  rcases hrow with ⟨old, hold, rfl⟩ | rfl
  · rw [List.length_append, hd.square old hold]
    rfl
  · rw [List.length_replicate]
    rfl

theorem WellFormed.mark (hd : WellFormed d) (hchild : child < d.size) (hon : on < d.size)
    (h : ¬ReflTransGen d.Added on child) : WellFormed (d.mark child on) where
  square row hrow := by
    rw [Dependencies.mark, List.length_modify]
    revert row
    apply forall_mem_modify child hd.square fun _ => id
    intro row hrow
    rwa [List.length_set]
  acyclic node hcycle := by
    have hadded : (d.mark child on).Added = fun i j => d.Added i j ∨ i = child ∧ j = on := by
      funext i j
      exact propext (hd.added_mark hchild hon)
    rw [hadded] at hcycle
    rcases transGen_insert hcycle with hold | ⟨hto, hfrom⟩
    · exact hd.acyclic node hold
    · exact h (hfrom.trans hto)
  explicit := iff_of_true rfl ⟨child, on, (hd.added_mark hchild hon).2 (.inr ⟨rfl, rfl⟩)⟩

theorem mem_explore_of_mem {next : Nat → List Nat} (fuel : Nat) {node : Nat} :
    ∀ {stack visited : List Nat}, node ∈ visited → node ∈ explore next fuel stack visited := by
  induction fuel with
  | zero => exact id
  | succ fuel ih =>
    intro stack visited h
    cases stack with
    | nil => exact h
    | cons top stack =>
      rw [explore]
      split
      · exact ih h
      · exact ih (List.mem_append_left [top] h)

/-- A search for one node, which ends when it is on top of the stack, comes to it just if it would be
among those that a whole search finds. -/
theorem leadsTo_iff {next : Nat → List Nat} {goal : Nat} (fuel : Nat) :
    ∀ {stack visited : List Nat}, goal ∉ visited → (leadsTo next goal fuel stack visited = true ↔
      goal ∈ explore (fun node => (next node).reverse) fuel stack visited) := by
  induction fuel with
  | zero => exact fun h => iff_of_false nofun h
  | succ fuel ih =>
    intro stack visited h
    cases stack with
    | nil => exact iff_of_false nofun h
    | cons node stack =>
      rw [leadsTo, explore]
      by_cases hgoal : node = goal
      · subst hgoal
        rw [if_pos (beq_self_eq_true node), if_neg (by simpa using h)]
        exact iff_of_true rfl (mem_explore_of_mem fuel (by simp))
      · rw [if_neg (by simpa using hgoal)]
        split
        · exact ih h
        · exact ih (by simpa [h] using Ne.symm hgoal)

theorem WellFormed.reaches_iff (hd : WellFormed d) {start goal : Nat} (h : start < d.size) :
    d.reaches start goal = true ↔ ReflTransGen d.Added start goal := by
  have hnext (node : Nat) : ((List.range d.size).filter (d.hasEdge node)).reverse.length ≤ d.size ∧
      ∀ other ∈ ((List.range d.size).filter (d.hasEdge node)).reverse, other < d.size := by
    simpa only [List.length_reverse, List.mem_reverse] using
      filter_range_bounded d.size (d.hasEdge node)
  have horder := explore_start hnext h d.lt_fuel
  have hleads : (fun i j => j ∈ ((List.range d.size).filter (d.hasEdge i)).reverse) = d.Added := by
    funext i j
    rw [List.mem_reverse, List.mem_filter, List.mem_range]
    exact propext ⟨And.right, fun hij => ⟨(hd.bounded hij).2, hij⟩⟩
  rw [reaches, leadsTo_iff d.fuel List.not_mem_nil, horder.mem_iff, hleads]

theorem add_outOfBounds (h : d.size ≤ child ∨ d.size ≤ on) :
    d.add child on = (.error .outOfBounds, d) := by
  rw [add, if_pos (by simpa using h)]

theorem WellFormed.add_cycle (hd : WellFormed d) (hchild : child < d.size) (hon : on < d.size)
    (h : ReflTransGen d.Added on child) : d.add child on = (.error .cycle, d) := by
  rw [add, if_neg (by simp; omega), if_pos (by simp [(hd.reaches_iff hon).2 h])]

theorem WellFormed.add_accepted (hd : WellFormed d) (hchild : child < d.size) (hon : on < d.size)
    (h : ¬ReflTransGen d.Added on child) : d.add child on = (.ok (), d.mark child on) := by
  have hne : child ≠ on := fun heq => h (heq ▸ .refl)
  have hnot := mt (hd.reaches_iff hon).1 h
  rw [add, if_neg (by simp; omega), if_neg (by simp [hne, hnot])]

inductive Answered (d : Dependencies) (child on : Nat) : Except Refusal Unit × Dependencies → Prop
  | outOfBounds (h : d.size ≤ child ∨ d.size ≤ on) : Answered d child on (.error .outOfBounds, d)
  | cycle (hchild : child < d.size) (hon : on < d.size) (h : ReflTransGen d.Added on child) :
    Answered d child on (.error .cycle, d)
  | accepted (hchild : child < d.size) (hon : on < d.size) (h : ¬ReflTransGen d.Added on child) :
    Answered d child on (.ok (), d.mark child on)

theorem WellFormed.answered (hd : WellFormed d) (child on : Nat) :
    Answered d child on (d.add child on) := by
  by_cases hbounds : d.size ≤ child ∨ d.size ≤ on
  · rw [add_outOfBounds hbounds]
    exact .outOfBounds hbounds
  · rw [not_or, not_le, not_le] at hbounds
    by_cases hpath : ReflTransGen d.Added on child
    · rw [hd.add_cycle hbounds.1 hbounds.2 hpath]
      exact .cycle hbounds.1 hbounds.2 hpath
    · rw [hd.add_accepted hbounds.1 hbounds.2 hpath]
      exact .accepted hbounds.1 hbounds.2 hpath

theorem WellFormed.add (hd : WellFormed d) (child on : Nat) : WellFormed (d.add child on).2 := by
  have hanswered := hd.answered child on
  generalize d.add child on = answer at hanswered
  cases hanswered with
  | outOfBounds => exact hd
  | cycle => exact hd
  | accepted hchild hon h => exact hd.mark hchild hon h

inductive Edit where
  | grow
  | add (child on : Nat)
  deriving DecidableEq, Repr

/-- The dependencies after a change, which may have been refused. -/
def edit (d : Dependencies) : Edit → Dependencies
  | .grow => d.grow
  | .add child on => (d.add child on).2

def built (edits : List Edit) : Dependencies := edits.foldl edit .empty

theorem WellFormed.edits (hd : WellFormed d) (edits : List Edit) :
    WellFormed (edits.foldl edit d) := by
  induction edits generalizing d with
  | nil => exact hd
  | cons change edits ih =>
    cases change with
    | grow => exact ih hd.grow
    | add child on => exact ih (hd.add child on)

theorem wellFormed_built (edits : List Edit) : WellFormed (built edits) := WellFormed.empty.edits edits

theorem size_edits (d : Dependencies) (edits : List Edit) :
    (edits.foldl edit d).size = d.size + edits.count .grow := by
  induction edits generalizing d with
  | nil => rfl
  | cons change edits ih =>
    rw [List.foldl_cons, ih]
    cases change with
    | grow => rw [edit, size_grow, List.count_cons_self, Nat.add_assoc, Nat.add_comm 1]
    | add child on => rw [edit, size_add, List.count_cons_of_ne Edit.noConfusion]

/-- Adds dependencies one after the other, up to the first that is refused. -/
def addAll (d : Dependencies) : List (Nat × Nat) → Except Refusal Unit × Dependencies
  | [] => (.ok (), d)
  | (child, on) :: edges =>
    match d.add child on with
    | (.ok (), next) => addAll next edges
    | (.error e, next) => (.error e, next)

/-- Dependencies are all accepted if they are between children and close no circle with those added
before, and then they are what is added. -/
theorem WellFormed.addAll_iff (hd : WellFormed d) (edges : List (Nat × Nat)) :
    ((d.addAll edges).1 = .ok () ↔ (∀ edge ∈ edges, edge.1 < d.size ∧ edge.2 < d.size) ∧
      ∀ node, ¬TransGen (fun i j => d.Added i j ∨ (i, j) ∈ edges) node node) ∧
    ((d.addAll edges).1 = .ok () → WellFormed (d.addAll edges).2 ∧
      (d.addAll edges).2.size = d.size ∧
      ∀ i j, (d.addAll edges).2.Added i j ↔ d.Added i j ∨ (i, j) ∈ edges) := by
  induction edges generalizing d with
  | nil =>
    simp only [addAll, List.not_mem_nil, or_false, implies_true, and_true, false_implies, true_and,
      forall_const, true_iff]
    exact ⟨hd.acyclic, hd⟩
  | cons edge edges ih =>
    obtain ⟨child, on⟩ := edge
    have hanswered := hd.answered child on
    rw [addAll]
    generalize d.add child on = answer at hanswered
    cases hanswered with
    | outOfBounds h =>
      refine ⟨iff_of_false nofun fun ⟨hbounds, _⟩ => ?_, nofun⟩
      have hedge := hbounds (child, on) List.mem_cons_self
      exact h.elim hedge.1.not_ge hedge.2.not_ge
    | cycle _ _ h =>
      refine ⟨iff_of_false nofun fun ⟨_, hacyclic⟩ => hacyclic on ?_, nofun⟩
      exact .tail' (ReflTransGen.mono (fun _ _ => Or.inl) _ _ h) (.inr List.mem_cons_self)
    | accepted hchild hon h =>
      obtain ⟨haccepts, hadds⟩ := ih (hd.mark hchild hon h)
      have hadded (i j : Nat) : (d.mark child on).Added i j ∨ (i, j) ∈ edges ↔
          d.Added i j ∨ (i, j) ∈ (child, on) :: edges := by
        rw [hd.added_mark hchild hon, List.mem_cons, Prod.mk.injEq, or_assoc]
      simp only [hadded, size_mark] at haccepts hadds
      refine ⟨haccepts.trans (and_congr_left fun _ => ?_), hadds⟩
      rw [List.forall_mem_cons]
      exact (and_iff_right ⟨hchild, hon⟩).symm

theorem WellFormed.answers (hd : WellFormed d) (child on : Nat) :
    ((d.add child on).1 = .error .outOfBounds ↔ d.size ≤ child ∨ d.size ≤ on) ∧
    ((d.add child on).1 = .error .cycle ↔
      (child < d.size ∧ on < d.size) ∧ ReflTransGen d.Added on child) ∧
    ((d.add child on).1 = .ok () ↔
      (child < d.size ∧ on < d.size) ∧ ¬ReflTransGen d.Added on child) ∧
    ((d.add child on).1 = .ok () → (d.add child on).2.size = d.size ∧
      (d.add child on).2.isExplicit = true ∧
      ∀ i j, (d.add child on).2.Added i j ↔ d.Added i j ∨ i = child ∧ j = on) ∧
    ((d.add child on).1 ≠ .ok () → (d.add child on).2 = d) := by
  have hanswered := hd.answered child on
  generalize d.add child on = answer at hanswered
  cases hanswered with
  | outOfBounds h =>
    have hbounds : ¬(child < d.size ∧ on < d.size) := fun hbounds =>
      h.elim hbounds.1.not_ge hbounds.2.not_ge
    exact ⟨iff_of_true rfl h, iff_of_false nofun fun hcycle => hbounds hcycle.1,
      iff_of_false nofun fun haccepted => hbounds haccepted.1, nofun, fun _ => rfl⟩
  | cycle hchild hon h =>
    exact ⟨iff_of_false nofun fun hbounds => hbounds.elim hchild.not_ge hon.not_ge,
      iff_of_true rfl ⟨⟨hchild, hon⟩, h⟩, iff_of_false nofun fun haccepted => haccepted.2 h, nofun,
      fun _ => rfl⟩
  | accepted hchild hon h =>
    exact ⟨iff_of_false nofun fun hbounds => hbounds.elim hchild.not_ge hon.not_ge,
      iff_of_false nofun fun hcycle => h hcycle.2, iff_of_true rfl ⟨⟨hchild, hon⟩, h⟩,
      fun _ => ⟨size_mark d child on, rfl, fun i j => hd.added_mark hchild hon⟩,
      fun hrefused => absurd rfl hrefused⟩

theorem WellFormed.addAll_congr (hd : WellFormed d) {edges other : List (Nat × Nat)}
    (hsame : ∀ edge, edge ∈ edges ↔ edge ∈ other) (haccepted : (d.addAll edges).1 = .ok ()) :
    d.addAll other = d.addAll edges := by
  have haccepted' : (d.addAll other).1 = .ok () := by
    rw [(hd.addAll_iff other).1]
    simpa only [hsame] using (hd.addAll_iff edges).1.1 haccepted
  obtain ⟨hwell, hsize, hadded⟩ := (hd.addAll_iff edges).2 haccepted
  obtain ⟨hwell', hsize', hadded'⟩ := (hd.addAll_iff other).2 haccepted'
  refine Prod.ext (haccepted'.trans haccepted.symm) (hwell'.ext hwell (hsize'.trans hsize.symm) ?_)
  intro i j
  rw [hadded', hadded, hsame]

/-- Whatever children and dependencies are added, there is a row of marks for each child, the table of
marks is square, and no child comes to depend on itself. A dependency is refused just if it names no
child, or if it would close a circle with those added before; a refusal changes nothing, and otherwise
just this dependency is added. So a set of dependencies is accepted just if it closes no circle, in any
order, and with the same outcome. -/
theorem acyclic_after_edits (edits : List Edit) :
    let d := built edits
    (d.rows.length = edits.count .grow ∧ ∀ row ∈ d.rows, row.length = d.rows.length) ∧
    (∀ node, ¬TransGen d.Added node node) ∧
    (∀ child on,
      ((d.add child on).1 = .error .outOfBounds ↔ d.size ≤ child ∨ d.size ≤ on) ∧
      ((d.add child on).1 = .error .cycle ↔
        (child < d.size ∧ on < d.size) ∧ (child = on ∨ TransGen d.Added on child)) ∧
      ((d.add child on).1 = .ok () ↔
        (child < d.size ∧ on < d.size) ∧ ¬(child = on ∨ TransGen d.Added on child)) ∧
      ((d.add child on).1 = .ok () → (d.add child on).2.size = d.size ∧
        (d.add child on).2.isExplicit = true ∧
        ∀ i j, (d.add child on).2.Added i j ↔ d.Added i j ∨ i = child ∧ j = on) ∧
      ((d.add child on).1 ≠ .ok () → (d.add child on).2 = d)) ∧
    (∀ edges, (d.addAll edges).1 = .ok () ↔ (∀ edge ∈ edges, edge.1 < d.size ∧ edge.2 < d.size) ∧
      ∀ node, ¬TransGen (fun i j => d.Added i j ∨ (i, j) ∈ edges) node node) ∧
    ∀ edges other, (∀ edge, edge ∈ edges ↔ edge ∈ other) → (d.addAll edges).1 = .ok () →
      d.addAll other = d.addAll edges := by
  intro d
  have hd : WellFormed d := wellFormed_built edits
  have hsize : d.size = edits.count .grow := (size_edits .empty edits).trans (Nat.zero_add _)
  refine ⟨⟨hsize, hd.square⟩, hd.acyclic, fun child on => ?_, fun edges => (hd.addAll_iff edges).1,
    fun edges other => hd.addAll_congr⟩
  rw [← reflTransGen_iff_eq_or_transGen]
  exact hd.answers child on

/-- The chain of registration does not count: the first of three children may depend on the last. After
that the last may not depend on the first. -/
theorem acyclic_after_edits_against_chain :
    let d := built [.grow, .grow, .grow]
    (d.addAll [(0, 2), (1, 0)]).1 = .ok () ∧
    d.addAll [(1, 0), (0, 2)] = d.addAll [(0, 2), (1, 0)] ∧
    ((d.add 0 2).2.add 2 0).1 = .error .cycle := by
  intro d
  have haccepted : (d.addAll [(0, 2), (1, 0)]).1 = .ok () := by decide
  obtain ⟨-, -, -, -, hsame⟩ := acyclic_after_edits [.grow, .grow, .grow]
  obtain ⟨-, -, hanswers, -⟩ := acyclic_after_edits [.grow, .grow, .grow, .add 0 2]
  refine ⟨haccepted, hsame _ _ (fun edge => by simp [or_comm]) haccepted, (hanswers 2 0).2.1.2 ?_⟩
  exact ⟨by decide, .inr (.single (rfl : hasEdge _ 0 2 = true))⟩

end Relay.Dependencies
