import Mathlib.Data.List.Perm.Basic
import Relay.Spawn.Reap

namespace Relay.Spawn

variable {α : Type} {finished : α → Bool}

theorem swapRemove_append_cons (l : List α) (a : α) (r : List α) :
    ∃ rest, rest.Perm r ∧ swapRemove (l ++ a :: r) l.length = l ++ rest := by
  rcases List.eq_nil_or_concat r with rfl | ⟨front, last, rfl⟩
  · refine ⟨[], .refl _, ?_⟩
    rw [swapRemove, List.getLast?_concat]
    simp only [List.dropLast_concat, List.append_nil]
    exact List.set_eq_of_length_le (Nat.le_refl _)
  · rw [List.concat_eq_append]
    refine ⟨last :: front, (List.perm_append_singleton last front).symm, ?_⟩
    have hconcat : l ++ a :: (front ++ [last]) = (l ++ a :: front) ++ [last] := by simp
    rw [hconcat, swapRemove, List.getLast?_concat]
    simp only [List.dropLast_concat]
    rw [List.set_append_right _ _ (Nat.le_refl _), Nat.sub_self, List.set_cons_zero]

theorem swapRemove_perm {xs : List α} {i : Nat} {a : α} (h : xs[i]? = some a) :
    (a :: swapRemove xs i).Perm xs := by
  obtain ⟨hi, rfl⟩ := List.getElem?_eq_some_iff.1 h
  have hsplit : xs.take i ++ xs[i] :: xs.drop (i + 1) = xs := by
    rw [← List.drop_eq_getElem_cons hi, List.take_append_drop]
  obtain ⟨rest, hperm, hremoved⟩ := swapRemove_append_cons (xs.take i) xs[i] (xs.drop (i + 1))
  rw [hsplit, List.length_take, Nat.min_eq_left (Nat.le_of_lt hi)] at hremoved
  rw [hremoved]
  have hrest : (xs[i] :: (xs.take i ++ rest)).Perm (xs[i] :: (xs.take i ++ xs.drop (i + 1))) :=
    (hperm.append_left _).cons _
  have hmiddle := @List.perm_middle _ xs[i] (xs.take i) (xs.drop (i + 1))
  rw [hsplit] at hmiddle
  exact hrest.trans hmiddle.symm

/-- The invariant of a pass: those it has passed by are kept. -/
theorem reapFrom_perm (l r : List α) :
    (reapFrom finished (l ++ r) l.length).1.Perm (r.filter finished) ∧
    (reapFrom finished (l ++ r) l.length).2.Perm (l ++ r.filter fun a => !finished a) := by
  induction hn : r.length generalizing l r with
  | zero =>
    obtain rfl := List.length_eq_zero_iff.1 hn
    rw [reapFrom, dif_neg (by simp)]
    exact ⟨.refl _, .refl _⟩
  | succ n ih =>
    obtain ⟨a, r, rfl⟩ := List.exists_cons_of_length_eq_add_one hn
    have hlength : r.length = n := Nat.succ.inj hn
    have hi : l.length < (l ++ a :: r).length := by simp
    have hat : (l ++ a :: r)[l.length] = a := by simp
    rw [reapFrom, dif_pos hi, hat]
    cases hfinished : finished a with
    | true =>
      obtain ⟨rest, hperm, hremoved⟩ := swapRemove_append_cons l a r
      obtain ⟨hjoined, hkept⟩ := ih l rest (hperm.length_eq.trans hlength)
      rw [if_pos rfl, hremoved, List.filter_cons_of_pos hfinished,
        List.filter_cons_of_neg (by simp [hfinished])]
      exact ⟨(hjoined.trans (hperm.filter _)).cons a,
        hkept.trans ((hperm.filter _).append_left l)⟩
    | false =>
      obtain ⟨hjoined, hkept⟩ := ih (l ++ [a]) r hlength
      rw [if_neg (by simp), List.filter_cons_of_neg (by simp [hfinished]),
        List.filter_cons_of_pos (by simp [hfinished])]
      rw [List.append_assoc, List.length_append] at hjoined hkept
      refine ⟨hjoined, ?_⟩
      rw [List.append_assoc] at hkept
      exact hkept

theorem reap_perm (xs : List α) : (reap finished xs).1.Perm (xs.filter finished) ∧
    (reap finished xs).2.Perm (xs.filter fun a => !finished a) :=
  reapFrom_perm [] xs

theorem mem_reap_kept {xs : List α} {a : α} :
    a ∈ (reap finished xs).2 ↔ a ∈ xs ∧ finished a = false := by
  rw [(reap_perm xs).2.mem_iff]
  simp

/-- A pass under way: the handles, the place it has come to, and the handles it has joined. -/
structure Pass (α : Type) where
  handles : List α
  place : Nat
  joined : List α

namespace Pass

def start (handles : List α) : Pass α := ⟨handles, 0, []⟩

/-- One turn of a pass; none when it has come to the end of the handles. -/
def turn? (finished : α → Bool) (p : Pass α) : Option (Pass α) :=
  p.handles[p.place]?.map fun handle =>
    if finished handle then ⟨swapRemove p.handles p.place, p.place, p.joined ++ [handle]⟩
    else { p with place := p.place + 1 }

/-- So many turns of a pass; none when it ends before. -/
def turns? (finished : α → Bool) : Nat → Pass α → Option (Pass α)
  | 0, p => some p
  | n + 1, p => (p.turn? finished).bind (turns? finished n)

/-- Whatever a pass has come to, it ends after one turn for each handle that is left. -/
theorem turns?_left (p : Pass α) (hp : p.place ≤ p.handles.length) :
    turns? finished (p.handles.length - p.place) p =
      some ⟨(reapFrom finished p.handles p.place).2,
        (reapFrom finished p.handles p.place).2.length,
        p.joined ++ (reapFrom finished p.handles p.place).1⟩ := by
  induction hn : p.handles.length - p.place generalizing p with
  | zero =>
    have hend : p.place = p.handles.length := by omega
    rw [turns?, reapFrom, dif_neg (by omega), List.append_nil, ← hend]
  | succ n ih =>
    have hlt : p.place < p.handles.length := by omega
    have hturn : p.turn? finished = some (if finished p.handles[p.place] then
        ⟨swapRemove p.handles p.place, p.place, p.joined ++ [p.handles[p.place]]⟩
        else { p with place := p.place + 1 }) := by
      rw [turn?, List.getElem?_eq_getElem hlt, Option.map_some]
    rw [turns?, hturn, Option.bind_some, reapFrom, dif_pos hlt]
    cases finished p.handles[p.place] with
    | true =>
      -- The handle that takes the place of the joined one is looked at next.
      have hlength := length_swapRemove p.handles p.place
      rw [if_pos rfl, if_pos rfl]
      rw [ih _ (by simp only [hlength]; omega) (by simp only [hlength]; omega),
        List.append_assoc, List.singleton_append]
    | false =>
      rw [if_neg Bool.false_ne_true, if_neg Bool.false_ne_true]
      exact ih _ hlt (by simp only; omega)

end Pass

/-- A pass ends after one turn for each handle. It has joined each finished handle as often as it was
there, and no other, and keeps the others in some order. -/
theorem reap_exact (finished : α → Bool) (handles : List α) : ∃ joined kept : List α,
    reap finished handles = (joined, kept) ∧
    (Pass.start handles).turns? finished handles.length = some ⟨kept, kept.length, joined⟩ ∧
    Pass.turn? finished ⟨kept, kept.length, joined⟩ = none ∧
    joined.Perm (handles.filter finished) ∧
    kept.Perm (handles.filter fun handle => !finished handle) := by
  obtain ⟨hjoined, hkept⟩ := @reap_perm _ finished handles
  refine ⟨_, _, rfl, ?_, ?_, hjoined, hkept⟩
  · exact Pass.turns?_left (.start handles) (Nat.zero_le _)
  · rw [Pass.turn?, List.getElem?_length, Option.map_none]

/-- The handle that takes the place of the first one is finished too. -/
example : reap (· < 3) [1, 5, 4, 2] = ([1, 2], [4, 5]) := by cbv

end Relay.Spawn
