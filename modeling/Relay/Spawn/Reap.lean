namespace Relay.Spawn

variable {α : Type}

/-- Removes the element at an index and puts the last one in its place. -/
def swapRemove (xs : List α) (i : Nat) : List α :=
  match xs.getLast? with
  | some last => xs.dropLast.set i last
  | none => xs

theorem length_swapRemove (xs : List α) (i : Nat) : (swapRemove xs i).length = xs.length - 1 := by
  unfold swapRemove
  cases h : xs.getLast? with
  | some last => simp
  | none => simp [List.getLast?_eq_none_iff.1 h]

/-- The handles joined and those kept, after a pass that starts at an index. In the place of a
joined one comes the last, which is looked at next. -/
def reapFrom (finished : α → Bool) (xs : List α) (i : Nat) : List α × List α :=
  if h : i < xs.length then
    if finished xs[i] then
      let (joined, kept) := reapFrom finished (swapRemove xs i) i
      (xs[i] :: joined, kept)
    else reapFrom finished xs (i + 1)
  else ([], xs)
termination_by xs.length - i
decreasing_by
  · rw [length_swapRemove]
    omega
  · omega

/-- The handles that a pass joins, and those it keeps. -/
def reap (finished : α → Bool) (xs : List α) : List α × List α := reapFrom finished xs 0

end Relay.Spawn
