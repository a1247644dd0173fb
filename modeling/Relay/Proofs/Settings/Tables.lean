import Relay.Settings.Value

namespace Relay.Settings

/-- What two layers give at one place. -/
def overlay (how : ListMerge) : Option Value → Option Value → Option Value
  | some old, some new => some (old.merge how new)
  | some old, none => some old
  | none, new => new

@[simp] theorem overlay_none_right (how : ListMerge) (old : Option Value) : overlay how old none = old := by
  cases old <;> rfl

namespace Table

def Ascending (t : Table) : Prop := t.Pairwise fun a b => a.1 < b.1

variable {t old new : Table} {key other : String} {how : ListMerge}

theorem get?_eq_none (h : ∀ entry ∈ t, entry.1 ≠ key) : t.get? key = none := by
  induction t with
  | nil => rfl
  | cons entry rest ih =>
    have hne : key ≠ entry.1 := (h entry List.mem_cons_self).symm
    rw [get?, if_neg hne]
    exact ih fun e he => h e (List.mem_cons_of_mem entry he)

theorem mem_put {value : Value} {entry : String × Value} (h : entry ∈ t.put key value) :
    entry = (key, value) ∨ entry ∈ t := by
  induction t with
  | nil => exact .inl (List.mem_singleton.1 h)
  | cons first rest ih =>
    unfold put at h
    split at h
    · exact (List.mem_cons.1 h).imp_right (List.mem_cons_of_mem _)
    · split at h
      · exact List.mem_cons.1 h
      · rcases List.mem_cons.1 h with rfl | hrest
        · exact .inr List.mem_cons_self
        · exact (ih hrest).imp_right (List.mem_cons_of_mem _)

theorem Ascending.put (h : t.Ascending) (key : String) (value : Value) :
    (t.put key value).Ascending := by
  induction t with
  | nil => exact List.pairwise_singleton _ _
  | cons first rest ih =>
    obtain ⟨hfirst, hrest⟩ := List.pairwise_cons.1 h
    unfold Table.put
    split
    · rename_i heq
      exact List.pairwise_cons.2 ⟨fun e he => heq ▸ hfirst e he, hrest⟩
    · rename_i hne
      split
      · rename_i hlt
        refine List.pairwise_cons.2 ⟨fun e he => ?_, h⟩
        rcases List.mem_cons.1 he with rfl | he
        · exact hlt
        · exact String.lt_trans hlt (hfirst e he)
      · rename_i hle
        have hgt : first.1 < key := by
          refine Decidable.byContradiction fun hnot => hne ?_
          exact String.le_antisymm (String.not_lt.1 hnot) (String.not_lt.1 hle)
        refine List.pairwise_cons.2 ⟨fun e he => ?_, ih hrest⟩
        rcases mem_put he with rfl | he
        · exact hgt
        · exact hfirst e he

theorem get?_mergeEntry (value : Value) : Table.get? (mergeEntry how old (key, value)) other =
    if other = key then overlay how (old.get? key) (some value) else old.get? other := by
  rw [mergeEntry, get?_put]
  cases old.get? key <;> rfl

theorem Ascending.merge (h : old.Ascending) (how : ListMerge) (new : Table) :
    (old.merge how new).Ascending := by
  unfold Table.merge
  induction new generalizing old with
  | nil => rwa [mergeEntries]
  | cons entry rest ih =>
    rw [mergeEntries]
    refine ih ?_
    rw [mergeEntry]
    exact h.put _ _

theorem get?_merge (hnew : new.Ascending) (key : String) :
    (old.merge how new).get? key = overlay how (old.get? key) (new.get? key) := by
  unfold Table.merge
  induction new generalizing old with
  | nil => simp [mergeEntries, get?]
  | cons entry rest ih =>
    obtain ⟨k, value⟩ := entry
    obtain ⟨hfirst, hrest⟩ := List.pairwise_cons.1 hnew
    rw [mergeEntries, ih hrest, get?_mergeEntry, get?]
    by_cases hkey : key = k
    · have hnone : Table.get? rest key = none := get?_eq_none fun e he heq =>
        String.lt_irrefl e.1 ((heq.trans hkey).symm ▸ hfirst e he)
      rw [if_pos hkey, if_pos hkey, hnone, overlay_none_right, hkey]
    · rw [if_neg hkey, if_neg hkey]

end Table

/-- What a dotted key leads to through nested tables. -/
def Table.dotted? (t : Table) (key : String) : Option Value := (Value.table t).find? (parts key)

theorem Value.bind_find?_nil (v : Option Value) : v.bind (find? []) = v := by
  cases v <;> rfl

theorem Value.find?_table {t : Table} {part : String} (hpart : part ≠ "") (rest : List String) :
    (Value.table t).find? (part :: rest) = (t.get? part).bind (Value.find? rest) := by
  rw [find?, if_neg (by simpa using hpart)]

/-- A dotted key is looked up part by part, through nested tables. -/
theorem Table.dotted?_of_parts {t : Table} {key part : String} {rest : List String}
    (hparts : parts key = part :: rest) (hpart : part ≠ "") :
    t.dotted? key = (t.get? part).bind (Value.find? rest) := by
  rw [dotted?, hparts, Value.find?_table hpart]

end Relay.Settings
