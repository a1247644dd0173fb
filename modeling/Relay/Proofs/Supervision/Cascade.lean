import Mathlib.Data.List.Nodup
import Mathlib.Data.List.Perm.Subperm
import Mathlib.Logic.Relation
import Relay.Supervision.Dependency

namespace Relay.Dependencies

open Relation

/-- The order in which a depth-first search finds what the nodes on a stack lead to, if the nodes
`seen` were found before: all that a node leads to comes before the next one on the stack. -/
inductive Preorder (next : Nat → List Nat) : (seen stack order : List Nat) → Prop
  | done {seen : List Nat} : Preorder next seen [] []
  | skip {seen stack order : List Nat} {node : Nat} (h : node ∈ seen)
    (hstack : Preorder next seen stack order) : Preorder next seen (node :: stack) order
  | visit {seen stack below later : List Nat} {node : Nat} (h : node ∉ seen)
    (hbelow : Preorder next (seen ++ [node]) (next node) below)
    (hstack : Preorder next (seen ++ node :: below) stack later) :
    Preorder next seen (node :: stack) (node :: below ++ later)

namespace Preorder

variable {next : Nat → List Nat} {seen stack order : List Nat} {node : Nat}

theorem nodup (h : Preorder next seen stack order) (hseen : seen.Nodup) :
    (seen ++ order).Nodup := by
  induction h with
  | done => simpa using hseen
  | skip _ _ ih => exact ih hseen
  | @visit seen stack below later node h _ _ ihBelow ihStack =>
    have hnode := List.Nodup.concat h hseen
    rw [List.concat_eq_append] at hnode
    have hbelow := ihBelow hnode
    rw [List.append_assoc] at hbelow
    have hstack := ihStack hbelow
    rwa [List.append_assoc] at hstack

theorem covers (h : Preorder next seen stack order) : ∀ node ∈ stack, node ∈ seen ++ order := by
  induction h with
  | done => nofun
  | skip h _ ih =>
    intro node hnode
    rcases List.mem_cons.1 hnode with rfl | hnode
    · exact List.mem_append_left _ h
    · exact ih node hnode
  | visit _ _ _ _ ih =>
    intro node hnode
    rcases List.mem_cons.1 hnode with rfl | hnode
    · simp
    · simpa using ih node hnode

theorem closed (h : Preorder next seen stack order) :
    ∀ node ∈ order, ∀ other ∈ next node, other ∈ seen ++ order := by
  induction h with
  | done => nofun
  | skip _ _ ih => exact ih
  | @visit seen stack below later node _ hbelow _ ihBelow ihStack =>
    intro found hfound other hother
    rw [List.cons_append, List.mem_cons, List.mem_append] at hfound
    rcases hfound with rfl | hfound | hfound
    · have hcovered := hbelow.covers other hother
      simp only [List.mem_append, List.mem_cons, List.not_mem_nil, or_false] at hcovered ⊢
      tauto
    · have hclosed := ihBelow found hfound other hother
      simp only [List.mem_append, List.mem_cons, List.not_mem_nil, or_false] at hclosed ⊢
      tauto
    · have hclosed := ihStack found hfound other hother
      simp only [List.mem_append, List.mem_cons] at hclosed ⊢
      tauto

theorem reached (h : Preorder next seen stack order) : ∀ other ∈ order, ∃ node ∈ stack,
    ReflTransGen (fun a b => b ∈ next a) node other := by
  induction h with
  | done => nofun
  | skip _ _ ih =>
    intro other hother
    obtain ⟨node, hnode, hpath⟩ := ih other hother
    exact ⟨node, List.mem_cons_of_mem _ hnode, hpath⟩
  | @visit seen stack below later node _ _ _ ihBelow ihStack =>
    intro other hother
    rw [List.cons_append, List.mem_cons, List.mem_append] at hother
    rcases hother with rfl | hother | hother
    · exact ⟨other, List.mem_cons_self, .refl⟩
    · obtain ⟨first, hfirst, hpath⟩ := ihBelow other hother
      exact ⟨node, List.mem_cons_self, .head hfirst hpath⟩
    · obtain ⟨first, hfirst, hpath⟩ := ihStack other hother
      exact ⟨first, List.mem_cons_of_mem _ hfirst, hpath⟩

theorem of_append {upper lower : List Nat} (h : Preorder next seen (upper ++ lower) order) :
    ∃ first second, order = first ++ second ∧ Preorder next seen upper first ∧
      Preorder next (seen ++ first) lower second := by
  generalize hall : upper ++ lower = all at h
  induction h generalizing upper with
  | @done seen =>
    obtain ⟨rfl, rfl⟩ := List.append_eq_nil_iff.1 hall
    exact ⟨[], [], rfl, .done, .done⟩
  | @skip seen stack order node h hstack ih =>
    cases upper with
    | nil =>
      cases hall
      exact ⟨[], order, rfl, .done, by simpa using hstack.skip h⟩
    | cons top upper =>
      injection hall with htop hrest
      subst htop
      obtain ⟨first, second, rfl, hupper, hlower⟩ := ih hrest
      exact ⟨first, second, rfl, hupper.skip h, hlower⟩
  | @visit seen stack below later node h hbelow hstack _ ih =>
    cases upper with
    | nil =>
      cases hall
      exact ⟨[], _, rfl, .done, by simpa using Preorder.visit h hbelow hstack⟩
    | cons top upper =>
      injection hall with htop hrest
      subst htop
      obtain ⟨first, second, rfl, hupper, hlower⟩ := ih hrest
      refine ⟨top :: below ++ first, second, by simp, .visit h hbelow hupper, ?_⟩
      simpa using hlower

theorem mem_iff {start : Nat} (h : Preorder next [] [start] order) :
    node ∈ order ↔ ReflTransGen (fun a b => b ∈ next a) start node := by
  constructor
  · intro hnode
    obtain ⟨first, hfirst, hpath⟩ := h.reached node hnode
    rwa [List.mem_singleton.1 hfirst] at hpath
  · intro hpath
    induction hpath with
    | refl => simpa using h.covers start List.mem_cons_self
    | tail _ hlast ih => simpa using h.closed _ ih _ hlast

theorem unique (h : Preorder next seen stack order) {other : List Nat}
    (hother : Preorder next seen stack other) : order = other := by
  induction h generalizing other with
  | done =>
    cases hother
    rfl
  | skip h _ ih =>
    cases hother with
    | skip _ hstack => exact ih hstack
    | visit hnot _ _ => exact absurd h hnot
  | visit hnot _ _ ihBelow ihStack =>
    cases hother with
    | skip h _ => exact absurd h hnot
    | visit _ hbelow hstack =>
      obtain rfl := ihBelow hbelow
      rw [ihStack hstack]

theorem found_after (h : Preorder next seen stack order) : ∀ node ∈ order,
    node ∈ stack ∨ ∃ parent, [parent, node].Sublist order ∧ node ∈ next parent := by
  induction h with
  | done => nofun
  | skip _ _ ih =>
    intro node hnode
    exact (ih node hnode).imp_left (List.mem_cons_of_mem _)
  | @visit seen stack below later top _ _ _ ihBelow ihStack =>
    intro node hnode
    rw [List.cons_append, List.mem_cons, List.mem_append] at hnode
    rcases hnode with rfl | hnode | hnode
    · exact .inl List.mem_cons_self
    · right
      rcases ihBelow node hnode with htop | ⟨parent, hparent, hnext⟩
      · have hfound := List.singleton_sublist.2 (List.mem_append_left later hnode)
        exact ⟨top, hfound.cons_cons top, htop⟩
      · exact ⟨parent, (hparent.cons top).trans (List.sublist_append_left _ later), hnext⟩
    · rcases ihStack node hnode with hstack | ⟨parent, hparent, hnext⟩
      · exact .inl (List.mem_cons_of_mem top hstack)
      · exact .inr ⟨parent, hparent.trans (List.sublist_append_right (top :: below) later), hnext⟩

theorem of_chain {size : Nat} (hnext : ∀ node, next node = if node + 1 < size then [node + 1] else [])
    (count : Nat) : ∀ start seen, start + count + 1 = size → (∀ node ∈ seen, node < start) →
      Preorder next seen [start] (List.range' start (count + 1)) := by
  induction count with
  | zero =>
    intro start seen hsize hseen
    have hbelow : Preorder next (seen ++ [start]) (next start) [] := by
      rw [hnext, if_neg (by omega)]
      exact .done
    exact .visit (fun hmem => absurd (hseen start hmem) (by omega)) hbelow .done
  | succ count ih =>
    intro start seen hsize hseen
    have hbelow : Preorder next (seen ++ [start]) (next start)
        (List.range' (start + 1) (count + 1)) := by
      rw [hnext, if_pos (by omega)]
      apply ih (start + 1) (seen ++ [start]) (by omega)
      intro node hnode
      rcases List.mem_append.1 hnode with hnode | hnode
      · exact Nat.lt_succ_of_lt (hseen node hnode)
      · rw [List.mem_singleton.1 hnode]
        exact Nat.lt_succ_self start
    rw [List.range'_succ, ← List.append_nil (List.range' (start + 1) (count + 1)),
      ← List.cons_append]
    exact .visit (fun hmem => absurd (hseen start hmem) (by omega)) hbelow .done

end Preorder

/-- With fuel for each node on the stack, and for all that may still be pushed, the exploration is a
depth-first search. -/
theorem explore_preorder {next : Nat → List Nat} {size : Nat}
    (hnext : ∀ node, (next node).length ≤ size ∧ ∀ other ∈ next node, other < size) (fuel : Nat) :
    ∀ stack visited : List Nat, visited.Nodup → (∀ node ∈ visited, node < size) →
      (∀ node ∈ stack, node < size) →
      stack.length + size * (size - visited.length) ≤ fuel →
      ∃ order, Preorder next visited stack order ∧
        explore next fuel stack visited = visited ++ order := by
  induction fuel with
  | zero =>
    intro stack visited _ _ _ hfuel
    have hempty : stack = [] := List.length_eq_zero_iff.1 (by omega)
    subst hempty
    exact ⟨[], .done, by simp [explore]⟩
  | succ fuel ih =>
    intro stack visited hnodup hvisited hstack hfuel
    cases stack with
    | nil => exact ⟨[], .done, by simp [explore]⟩
    | cons node stack =>
      have hrest : ∀ other ∈ stack, other < size := fun other hother =>
        hstack other (List.mem_cons_of_mem node hother)
      rw [List.length_cons] at hfuel
      by_cases hseen : node ∈ visited
      · obtain ⟨order, horder, heq⟩ := ih stack visited hnodup hvisited hrest (by omega)
        exact ⟨order, horder.skip hseen, by simp [explore, hseen, heq]⟩
      · have hnode : node < size := hstack node List.mem_cons_self
        have hnodup' := List.Nodup.concat hseen hnodup
        rw [List.concat_eq_append] at hnodup'
        have hvisited' : ∀ other ∈ visited ++ [node], other < size := by
          intro other hother
          rcases List.mem_append.1 hother with hother | hother
          · exact hvisited other hother
          · rw [List.mem_singleton.1 hother]
            exact hnode
        -- One more node is visited, which pays for what it pushes.
        have hroom : visited.length + 1 ≤ size := by
          have hle := (List.Nodup.subperm hnodup' fun other hother =>
            List.mem_range.2 (hvisited' other hother)).length_le
          simpa using hle
        have hpaid : size * (size - visited.length) =
            size * (size - (visited ++ [node]).length) + size := by
          rw [List.length_append, List.length_singleton, ← Nat.mul_succ]
          congr 1
          omega
        obtain ⟨order, horder, heq⟩ := ih (next node ++ stack) (visited ++ [node]) hnodup' hvisited'
          (by
            intro other hother
            rcases List.mem_append.1 hother with hother | hother
            · exact (hnext node).2 other hother
            · exact hrest other hother)
          (by
            have hpushed := (hnext node).1
            rw [List.length_append]
            omega)
        obtain ⟨below, later, rfl, hbelow, hlater⟩ := horder.of_append
        refine ⟨node :: below ++ later, .visit hseen hbelow (by simpa using hlater), ?_⟩
        simp [explore, hseen, heq]

theorem explore_start {next : Nat → List Nat} {size start fuel : Nat}
    (hnext : ∀ node, (next node).length ≤ size ∧ ∀ other ∈ next node, other < size)
    (h : start < size) (hfuel : size * size < fuel) :
    Preorder next [] [start] (explore next fuel [start] []) := by
  obtain ⟨order, horder, heq⟩ := explore_preorder hnext fuel [start] [] .nil nofun
    (by simpa using h) (by simpa [Nat.add_comm] using Nat.succ_le_of_lt hfuel)
  rwa [heq]

theorem filter_range_bounded (size : Nat) (leads : Nat → Bool) :
    ((List.range size).filter leads).length ≤ size ∧
      ∀ other ∈ (List.range size).filter leads, other < size := by
  refine ⟨?_, fun other hother => List.mem_range.1 (List.mem_of_mem_filter hother)⟩
  have hle := List.length_filter_le leads (List.range size)
  rwa [List.length_range] at hle

/-- The children that directly depend on one, in ascending order. -/
def dependents (d : Dependencies) (on : Nat) : List Nat :=
  (List.range d.size).filter (d.dependsOn · on)

variable {d : Dependencies} {failed : Nat}

theorem mem_dependents {child on : Nat} :
    child ∈ d.dependents on ↔ child < d.size ∧ d.dependsOn child on = true := by
  simp [dependents]

theorem lt_fuel (d : Dependencies) : d.size * d.size < d.fuel := by
  rw [fuel]
  omega

theorem cascade_preorder (h : failed < d.size) :
    Preorder d.dependents [] [failed] (d.cascade failed) := by
  rw [cascade, if_pos h]
  exact explore_start (fun on => filter_range_bounded d.size _) h d.lt_fuel

theorem nodup_cascade (h : failed < d.size) : (d.cascade failed).Nodup := by
  simpa using (cascade_preorder h).nodup .nil

theorem cascade_eq_cons (h : failed < d.size) : ∃ rest, d.cascade failed = failed :: rest := by
  generalize horder : d.cascade failed = order
  have hpre := cascade_preorder h
  rw [horder] at hpre
  cases hpre with
  | skip hseen _ => cases hseen
  | visit _ _ _ => exact ⟨_, rfl⟩

theorem lt_size_of_mem_cascade (h : failed < d.size) {child : Nat}
    (hchild : child ∈ d.cascade failed) : child < d.size := by
  obtain ⟨first, hfirst, hpath⟩ := (cascade_preorder h).reached child hchild
  rw [List.mem_singleton.1 hfirst] at hpath
  cases hpath with
  | refl => exact h
  | tail _ hlast => exact (mem_dependents.1 hlast).1

/-- The cascade of a child holds those that depend on it, directly or not, and itself. -/
theorem mem_cascade_iff (h : failed < d.size) {child : Nat} : child ∈ d.cascade failed ↔
    ReflTransGen (fun on child => child < d.size ∧ d.dependsOn child on = true) failed child := by
  rw [(cascade_preorder h).mem_iff]
  simp only [mem_dependents]

end Relay.Dependencies
