import Mathlib.Data.List.Infix
import Mathlib.Data.List.Perm.Basic

namespace Relay

variable {α : Type} {l : List α} {i j : Nat} {a b : α}

theorem of_getElem?_modify {f : α → α} (h : (l.modify i f)[j]? = some b) :
    ∃ a, l[j]? = some a ∧ (i = j ∧ b = f a ∨ i ≠ j ∧ b = a) := by
  rw [List.getElem?_modify, Option.map_eq_map, Option.map_eq_some_iff] at h
  obtain ⟨a, ha, rfl⟩ := h
  refine ⟨a, ha, ?_⟩
  by_cases hij : i = j
  · exact .inl ⟨hij, if_pos hij⟩
  · exact .inr ⟨hij, if_neg hij⟩

theorem of_getElem?_concat (h : (l ++ [a])[j]? = some b) :
    l[j]? = some b ∨ j = l.length ∧ b = a := by
  rcases Nat.lt_or_ge j l.length with hlt | hge
  · rw [List.getElem?_append_left hlt] at h
    exact .inl h
  · rw [List.getElem?_append_right hge, List.getElem?_singleton] at h
    split at h
    · cases h
      exact .inr ⟨by omega, rfl⟩
    · cases h

theorem of_getElem?_set (h : (l.set i a)[j]? = some b) :
    i = j ∧ b = a ∨ i ≠ j ∧ l[j]? = some b := by
  by_cases hij : i = j
  · subst hij
    rw [List.getElem?_set_self'] at h
    obtain ⟨_, -, rfl⟩ := Option.map_eq_some_iff.1 h
    exact .inl ⟨rfl, rfl⟩
  · rw [List.getElem?_set_ne hij] at h
    exact .inr ⟨hij, h⟩

theorem getElem?_set_of_ne (h : l[i]? = some a) (hother : l[j]? = some b) (hne : a ≠ b) {c : α} :
    (l.set i c)[j]? = some b := by
  have hij : i ≠ j := by
    rintro rfl
    exact hne (Option.some.inj (h.symm.trans hother))
  rw [List.getElem?_set_ne hij, hother]

theorem forall_mem_modify_at {P Q : α → Prop} {f : α → α} (i : Nat) (h : ∀ a ∈ l, P a)
    (hkeep : ∀ a, P a → Q a) (hf : ∀ a, l[i]? = some a → P a → Q (f a)) :
    ∀ a ∈ l.modify i f, Q a := by
  intro b hb
  obtain ⟨j, hj⟩ := List.mem_iff_getElem?.1 hb
  obtain ⟨a, ha, ⟨rfl, rfl⟩ | ⟨-, rfl⟩⟩ := of_getElem?_modify hj
  · exact hf a ha (h a (List.mem_of_getElem? ha))
  · exact hkeep _ (h _ (List.mem_of_getElem? ha))

theorem forall_mem_modify {P Q : α → Prop} {f : α → α} (i : Nat) (h : ∀ a ∈ l, P a)
    (hkeep : ∀ a, P a → Q a) (hf : ∀ a, P a → Q (f a)) : ∀ a ∈ l.modify i f, Q a :=
  forall_mem_modify_at i h hkeep fun a _ => hf a

theorem mem_modify_of_getElem? (f : α → α) (h : l[i]? = some a) : f a ∈ l.modify i f := by
  apply List.mem_of_getElem? (i := i)
  rw [List.getElem?_modify_eq, h]
  rfl

theorem exists_mem_modify {P : α → Prop} (f : α → α) (h : l[i]? = some a) (hP : ∃ b ∈ l, P b) :
    P a ∨ ∃ b ∈ l.modify i f, P b := by
  obtain ⟨b, hb, hPb⟩ := hP
  obtain ⟨j, hj⟩ := List.mem_iff_getElem?.1 hb
  by_cases hij : i = j
  · subst hij
    rw [h] at hj
    cases hj
    exact .inl hPb
  · refine .inr ⟨b, List.mem_of_getElem? (i := j) ?_, hPb⟩
    rw [List.getElem?_modify_ne _ _ hij, hj]

theorem modify_congr {f g : α → α} (h : l[i]? = some a) (hfg : f a = g a) :
    l.modify i f = l.modify i g := by
  apply List.ext_getElem?
  intro j
  by_cases hj : i = j
  · subst hj
    simp [h, hfg]
  · rw [List.getElem?_modify_ne _ _ hj, List.getElem?_modify_ne _ _ hj]

theorem map_modify {β : Type} {f : α → α} {g : α → β} (hf : ∀ a, g (f a) = g a) :
    (l.modify i f).map g = l.map g := by
  apply List.ext_getElem?
  intro j
  rw [List.getElem?_map, List.getElem?_map, List.getElem?_modify]
  cases l[j]? with
  | none => rfl
  | some a =>
    by_cases hj : i = j
    · simp [hj, hf]
    · simp [hj]

theorem countP_modify {p : α → Bool} {f : α → α} (h : l[i]? = some a) :
    (l.modify i f).countP p + (p a).toNat = l.countP p + (p (f a)).toNat := by
  induction l generalizing i with
  | nil => cases h
  | cons b l ih =>
    cases i with
    | zero =>
      cases h
      rw [List.modify_zero_cons, List.countP_cons, List.countP_cons]
      cases p a <;> cases p (f a) <;> simp
    | succ i =>
      have htail := ih (i := i) (by simpa using h)
      rw [List.modify_succ_cons, List.countP_cons, List.countP_cons]
      omega

theorem filterMap_modify_perm {β : Type} {g : α → Option β} {f : α → α} (h : l[i]? = some a) :
    ((g a).toList ++ (l.modify i f).filterMap g).Perm ((g (f a)).toList ++ l.filterMap g) := by
  have hcons (b : α) (l : List α) : (b :: l).filterMap g = (g b).toList ++ l.filterMap g := by
    cases hb : g b <;> simp [hb]
  induction l generalizing i with
  | nil => cases h
  | cons b l ih =>
    cases i with
    | zero =>
      cases h
      rw [List.modify_zero_cons, hcons, hcons]
      exact List.perm_append_comm_assoc _ _ _
    | succ i =>
      rw [List.modify_succ_cons, hcons, hcons]
      have hrest := (ih (i := i) (by simpa using h)).append_left (g b).toList
      apply (List.perm_append_comm_assoc _ _ _).trans
      apply hrest.trans
      exact List.perm_append_comm_assoc _ _ _

theorem flatten_set_perm {lists : List (List α)} {old : List α} (h : lists[i]? = some old)
    (new : List α) : (old ++ (lists.set i new).flatten).Perm (new ++ lists.flatten) := by
  induction lists generalizing i with
  | nil => cases h
  | cons first lists ih =>
    cases i with
    | zero =>
      cases h
      exact List.perm_append_comm_assoc old new lists.flatten
    | succ i =>
      rw [List.set_cons_succ, List.flatten_cons, List.flatten_cons]
      have hrest := (ih (i := i) (by simpa using h)).append_left first
      exact (List.perm_append_comm_assoc _ _ _).trans (hrest.trans (List.perm_append_comm_assoc _ _ _))

end Relay
