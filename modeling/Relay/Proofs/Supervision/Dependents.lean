import Relay.Proofs.Supervision.Acyclicity

namespace Relay.Dependencies

open Relation

variable {d : Dependencies} {failed : Nat} {edits : List Edit}

/-- Which of the dependencies that changes add are accepted, earliest first. -/
def accepted (d : Dependencies) : List Edit → List (Nat × Nat)
  | [] => []
  | .grow :: edits => accepted d.grow edits
  | .add child on :: edits =>
    match d.add child on with
    | (.ok (), next) => (child, on) :: accepted next edits
    | (.error _, next) => accepted next edits

theorem WellFormed.added_edits (hd : WellFormed d) (edits : List Edit) (i j : Nat) :
    (edits.foldl edit d).Added i j ↔ d.Added i j ∨ (i, j) ∈ d.accepted edits := by
  induction edits generalizing d with
  | nil => simp [accepted]
  | cons change edits ih =>
    rw [List.foldl_cons]
    cases change with
    | grow =>
      rw [edit, ih hd.grow, accepted, Added, hasEdge_grow]
      rfl
    | add child on =>
      have hanswered := hd.answered child on
      rw [edit, accepted]
      generalize d.add child on = answer at hanswered
      cases hanswered with
      | outOfBounds => exact ih hd
      | cycle => exact ih hd
      | accepted hchild hon h =>
        rw [ih (hd.mark hchild hon h), hd.added_mark hchild hon, List.mem_cons, Prod.mk.injEq,
          or_assoc]

theorem added_built (edits : List Edit) (i j : Nat) :
    (built edits).Added i j ↔ (i, j) ∈ accepted .empty edits := by
  have hnone : ¬Added .empty i j := nofun
  exact (WellFormed.empty.added_edits edits i j).trans (or_iff_right hnone)

theorem dependsOn_built (edits : List Edit) (child on : Nat) :
    (built edits).dependsOn child on = true ↔
      if accepted .empty edits = [] then child = on + 1 else (child, on) ∈ accepted .empty edits := by
  have hexplicit := (wellFormed_built edits).explicit
  simp only [added_built] at hexplicit
  rw [dependsOn]
  by_cases hnone : accepted .empty edits = []
  · have hchain : ¬(built edits).isExplicit = true := by
      rw [hexplicit, hnone]
      exact nofun
    rw [if_neg hchain, if_pos hnone, beq_iff_eq]
  · obtain ⟨⟨i, j⟩, hmem⟩ := List.exists_mem_of_ne_nil _ hnone
    rw [if_pos (hexplicit.2 ⟨i, j, hmem⟩), if_neg hnone, ← added_built]
    rfl

theorem dependents_of_chain (h : ∀ child on, d.dependsOn child on = true ↔ child = on + 1) (on : Nat) :
    d.dependents on = if on + 1 < d.size then [on + 1] else [] := by
  have hchain : (d.dependsOn · on) = (· == on + 1) := by
    funext child
    rw [Bool.eq_iff_iff, h, beq_iff_eq]
  rw [dependents, hchain, List.filter_beq, List.nodup_range.count]
  simp only [List.mem_range]
  split <;> rfl

theorem cascade_of_chain (hfailed : failed < d.size)
    (h : ∀ child on, d.dependsOn child on = true ↔ child = on + 1) :
    d.cascade failed = List.range' failed (d.size - failed) := by
  have hchain := Preorder.of_chain (dependents_of_chain h) (d.size - failed - 1) failed []
    (by omega) nofun
  rw [show d.size - failed - 1 + 1 = d.size - failed by omega] at hchain
  exact (cascade_preorder hfailed).unique hchain

theorem explore_dependents (h : failed < d.size) (more : Nat) :
    explore d.dependents (d.fuel + more) [failed] [] = d.cascade failed := by
  have hfuel : d.size * d.size < d.fuel + more := Nat.lt_add_right more d.lt_fuel
  have horder := explore_start (fun on => filter_range_bounded d.size (d.dependsOn · on)) h hfuel
  exact Preorder.unique horder (cascade_preorder h)

theorem exists_before_of_mem_tail (h : failed < d.size) {child : Nat}
    (hchild : child ∈ (d.cascade failed).tail) :
    ∃ on, [on, child].Sublist (d.cascade failed) ∧ d.dependsOn child on = true := by
  obtain ⟨rest, hrest⟩ := cascade_eq_cons h
  have hnodup := nodup_cascade h
  rw [hrest] at hchild hnodup
  have hne : child ≠ failed := fun heq => (List.nodup_cons.1 hnodup).1 (heq ▸ hchild)
  have hmem : child ∈ d.cascade failed := hrest ▸ List.mem_cons_of_mem failed hchild
  rcases (cascade_preorder h).found_after child hmem with hfirst | ⟨on, hbefore, hdependent⟩
  · exact absurd (List.mem_singleton.1 hfirst) hne
  · exact ⟨on, hbefore, (mem_dependents.1 hdependent).2⟩

/-- Whatever children and dependencies were added, the cascade of a child begins with it, and holds once
each those that depend on it, directly or not: by the accepted dependencies, or along the chain as long as
there is none. Each of the others comes behind one that it directly depends on. The order is that of a
depth-first search which goes to the direct dependents in ascending order, and the search has come to its
end. -/
theorem cascade_depth_first (h : failed < (built edits).size) :
    let d := built edits
    let added := accepted .empty edits
    (∀ child on, d.dependsOn child on = true ↔
      if added = [] then child = on + 1 else (child, on) ∈ added) ∧
    (d.cascade failed).Nodup ∧ (d.cascade failed).head? = some failed ∧
    (∀ child, child ∈ d.cascade failed ↔
      ReflTransGen (fun on child => child < d.size ∧ d.dependsOn child on = true) failed child) ∧
    (added = [] → d.cascade failed = List.range' failed (d.size - failed)) ∧
    (∀ child ∈ (d.cascade failed).tail, ∃ on, [on, child].Sublist (d.cascade failed) ∧
      d.dependsOn child on = true) ∧
    (∀ on, (d.dependents on).Pairwise (· < ·) ∧
      ∀ child, child ∈ d.dependents on ↔ child < d.size ∧ d.dependsOn child on = true) ∧
    (∀ order, Preorder d.dependents [] [failed] order ↔ order = d.cascade failed) ∧
    ∀ more, explore d.dependents (d.fuel + more) [failed] [] = d.cascade failed := by
  intro d added
  have hdepends := dependsOn_built edits
  refine ⟨hdepends, nodup_cascade h, ?_, fun child => mem_cascade_iff h, fun hnone => ?_,
    fun child => exists_before_of_mem_tail h, fun on => ⟨?_, fun child => mem_dependents⟩,
    fun order => ⟨fun horder => horder.unique (cascade_preorder h), ?_⟩, explore_dependents h⟩
  · obtain ⟨rest, hrest⟩ := cascade_eq_cons h
    rw [hrest]
    rfl
  · apply cascade_of_chain h
    intro child on
    rw [hdepends, if_pos hnone]
  · exact List.pairwise_lt_range.filter _
  · rintro rfl
    exact cascade_preorder h

/-- Two children depend on the first, and one of them leads to two more before the other comes; a dependency
that closes a circle was refused in between. -/
theorem cascade_depth_first_two_branches :
    let edits : List Edit := [.grow, .grow, .grow, .grow, .grow, .add 1 0, .add 3 0, .add 0 3,
      .add 2 1, .add 4 2]
    0 < (built edits).size ∧ accepted .empty edits = [(1, 0), (3, 0), (2, 1), (4, 2)] ∧
    (built edits).cascade 0 = [0, 1, 2, 4, 3] ∧
    ∀ order, Preorder (built edits).dependents [] [0] order ↔ order = [0, 1, 2, 4, 3] := by
  intro edits
  have hsize : 0 < (built edits).size := by decide
  have hcascade : (built edits).cascade 0 = [0, 1, 2, 4, 3] := by decide
  obtain ⟨-, -, -, -, -, -, -, horder, -⟩ := cascade_depth_first hsize
  exact ⟨hsize, by decide, hcascade, hcascade ▸ horder⟩

end Relay.Dependencies
