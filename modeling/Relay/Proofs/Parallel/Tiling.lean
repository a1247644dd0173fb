import Mathlib.Data.Nat.Basic
import Mathlib.Order.Basic
import Relay.Parallel.Partition

namespace Relay

/-- The number of items in the pieces of the first workers. -/
def cut (len workers id : Nat) : Nat := id * (len / workers) + min id (len % workers)

section Cut

variable {len workers id a b i : Nat}

theorem cut_zero : cut len workers 0 = 0 := by simp [cut]

theorem cut_succ : cut len workers (id + 1) =
    cut len workers id + len / workers + (if id < len % workers then 1 else 0) := by
  unfold cut
  rw [Nat.succ_mul]
  split <;> omega

theorem cut_workers (h : 0 < workers) : cut len workers workers = len := by
  have hextra : len % workers < workers := Nat.mod_lt len h
  rw [cut, Nat.min_eq_right hextra.le, Nat.div_add_mod]

theorem cut_mono (h : a ≤ b) : cut len workers a ≤ cut len workers b := by
  induction b, h using Nat.le_induction with
  | base => exact le_rfl
  | succ b _ ih =>
    rw [cut_succ, Nat.add_assoc]
    exact ih.trans (Nat.le_add_right _ _)

theorem cut_le (h : id ≤ workers) : cut len workers id ≤ len := by
  rcases Nat.eq_zero_or_pos workers with rfl | hpos
  · rw [Nat.le_zero.1 h, cut_zero]
    exact Nat.zero_le len
  · exact (cut_mono h).trans_eq (cut_workers hpos)

theorem exists_between_cuts (h : i < cut len workers b) :
    ∃ id < b, cut len workers id ≤ i ∧ i < cut len workers (id + 1) := by
  induction b with
  | zero =>
    rw [cut_zero] at h
    exact (Nat.not_lt_zero i h).elim
  | succ b ih =>
    by_cases hbefore : i < cut len workers b
    · obtain ⟨id, hid, hbetween⟩ := ih hbefore
      exact ⟨id, hid.trans (Nat.lt_succ_self b), hbetween⟩
    · exact ⟨b, Nat.lt_succ_self b, Nat.le_of_not_lt hbefore, h⟩

theorem le_of_between_cuts (ha : cut len workers a ≤ i) (hb : i < cut len workers (b + 1)) : a ≤ b := by
  by_contra hlt
  have hcuts : cut len workers (b + 1) ≤ cut len workers a := cut_mono (Nat.lt_of_not_le hlt)
  omega

end Cut

def mulWithin? (bound a b : UInt64) : Option UInt64 :=
  if a.toNat * b.toNat ≤ bound.toNat then some (a * b) else none

def addWithin? (bound a b : UInt64) : Option UInt64 :=
  if a.toNat + b.toNat ≤ bound.toNat then some (a + b) else none

/-- The piece of a worker, as long as no product and no sum on the way to it is greater than `bound`. -/
def partitionWithin? (bound len id workers : UInt64) : Option Span :=
  if workers = 0 || workers ≤ id then some ⟨len, len⟩
  else do
    let base := len / workers
    let extra := len % workers
    let start ← addWithin? bound (← mulWithin? bound id base) (min id extra)
    let stop ← addWithin? bound (← addWithin? bound start base) (if id < extra then 1 else 0)
    return ⟨start, stop⟩

instance : Membership UInt64 Span := ⟨fun s i => s.start ≤ i ∧ i < s.stop⟩

def Span.size (s : Span) : Nat := s.stop.toNat - s.start.toNat

section Words

variable {bound id workers a b : UInt64} (len : UInt64)

theorem toNat_min (a b : UInt64) : (min a b).toNat = min a.toNat b.toNat := by
  change (if a ≤ b then a else b).toNat = _
  split
  · rename_i hle
    exact (Nat.min_eq_left (UInt64.le_iff_toNat_le.1 hle)).symm
  · rename_i hlt
    exact (Nat.min_eq_right (Nat.le_of_not_le (mt UInt64.le_iff_toNat_le.2 hlt))).symm

theorem mulWithin?_eq_some (h : a.toNat * b.toNat ≤ bound.toNat) :
    mulWithin? bound a b = some (a * b) ∧ (a * b).toNat = a.toNat * b.toNat := by
  refine ⟨if_pos h, ?_⟩
  rw [UInt64.toNat_mul]
  exact Nat.mod_eq_of_lt (h.trans_lt bound.toNat_lt)

theorem addWithin?_eq_some (h : a.toNat + b.toNat ≤ bound.toNat) :
    addWithin? bound a b = some (a + b) ∧ (a + b).toNat = a.toNat + b.toNat := by
  refine ⟨if_pos h, ?_⟩
  rw [UInt64.toNat_add]
  exact Nat.mod_eq_of_lt (h.trans_lt bound.toNat_lt)

theorem partition_of_le (h : workers = 0 ∨ workers ≤ id) : partition len id workers = ⟨len, len⟩ := by
  rw [partition, if_pos]
  rcases h with rfl | hle
  · rfl
  · simp [hle]

theorem not_le_of_lt (h : id < workers) : ¬ (workers = 0 || workers ≤ id) = true := by
  have hlt := UInt64.lt_iff_toNat_lt.1 h
  simp only [Bool.or_eq_true, decide_eq_true_eq, not_or, UInt64.le_iff_toNat_le]
  refine ⟨?_, Nat.not_le_of_lt hlt⟩
  rintro rfl
  exact Nat.not_lt_zero _ hlt

/-- The piece of a worker lies between two cuts, and nothing on the way to it is beyond the items. -/
theorem partition_cuts (h : id < workers) :
    partitionWithin? len len id workers = some (partition len id workers) ∧
    (partition len id workers).start.toNat = cut len.toNat workers.toNat id.toNat ∧
    (partition len id workers).stop.toNat = cut len.toNat workers.toNat (id.toNat + 1) := by
  have hlt := UInt64.lt_iff_toNat_lt.1 h
  have hstop : cut len.toNat workers.toNat (id.toNat + 1) ≤ len.toNat := cut_le hlt
  have hnext := @cut_succ len.toNat workers.toNat id.toNat
  have hstart : cut len.toNat workers.toNat id.toNat = id.toNat * (len / workers).toNat +
      (min id (len % workers)).toNat := by
    rw [cut, UInt64.toNat_div, toNat_min, UInt64.toNat_mod]
  have hbit : (if id < len % workers then (1 : UInt64) else 0).toNat =
      if id.toNat < len.toNat % workers.toNat then 1 else 0 := by
    simp only [UInt64.lt_iff_toNat_lt, UInt64.toNat_mod]
    split <;> rfl
  rw [← UInt64.toNat_div, ← hbit] at hnext
  obtain ⟨hproduct, hproductNat⟩ := @mulWithin?_eq_some len id (len / workers) (by omega)
  obtain ⟨hfirst, hfirstNat⟩ := @addWithin?_eq_some len (id * (len / workers)) (min id (len % workers))
    (by omega)
  obtain ⟨hbase, hbaseNat⟩ := @addWithin?_eq_some len (id * (len / workers) + min id (len % workers))
    (len / workers) (by omega)
  obtain ⟨hlast, hlastNat⟩ := @addWithin?_eq_some len
    (id * (len / workers) + min id (len % workers) + len / workers)
    (if id < len % workers then 1 else 0) (by omega)
  rw [partition, partitionWithin?, if_neg (not_le_of_lt h), if_neg (not_le_of_lt h)]
  refine ⟨?_, ?_, ?_⟩
  · simp only [hproduct, hfirst, hbase, hlast, bind, Option.bind, pure]
  · rw [hstart, ← hproductNat]
    exact hfirstNat
  · change UInt64.toNat (_ + _) = _
    rw [hlastNat, hbaseNat, hfirstNat, hproductNat, hnext, hstart]

theorem toNat_pred (h : workers ≠ 0) : (workers - 1).toNat + 1 = workers.toNat := by
  have hpos : 1 ≤ workers.toNat := by
    apply Nat.one_le_iff_ne_zero.2
    exact fun hzero => h (UInt64.toNat_inj.1 (hzero.trans UInt64.toNat_zero.symm))
  rw [UInt64.toNat_sub_of_le workers 1 (UInt64.le_iff_toNat_le.2 hpos)]
  exact Nat.sub_add_cancel hpos

theorem toNat_succ (h : id < workers) : (id + 1).toNat = id.toNat + 1 :=
  (@addWithin?_eq_some workers id 1 (UInt64.lt_iff_toNat_lt.1 h)).2

theorem size_partition (h : id < workers) : (partition len id workers).size =
    len.toNat / workers.toNat + if id.toNat < len.toNat % workers.toNat then 1 else 0 := by
  obtain ⟨-, hstart, hstop⟩ := partition_cuts len h
  rw [Span.size, hstart, hstop, cut_succ, Nat.add_assoc, Nat.add_sub_cancel_left]

theorem mem_partition_iff {i : UInt64} (h : id < workers) : i ∈ partition len id workers ↔
    cut len.toNat workers.toNat id.toNat ≤ i.toNat ∧
      i.toNat < cut len.toNat workers.toNat (id.toNat + 1) := by
  obtain ⟨-, hstart, hstop⟩ := partition_cuts len h
  rw [← hstart, ← hstop, ← UInt64.le_iff_toNat_le, ← UInt64.lt_iff_toNat_lt]
  rfl

/-- Every item is in the piece of just one worker: that of the two cuts it lies between. -/
theorem existsUnique_piece {len workers i : UInt64} (hpos : 0 < workers.toNat) (hi : i < len) :
    ∃! id, id < workers ∧ i ∈ partition len id workers := by
  have hbefore : i.toNat < cut len.toNat workers.toNat workers.toNat := by
    rw [cut_workers hpos]
    exact UInt64.lt_iff_toNat_lt.1 hi
  obtain ⟨n, hn, hbetween⟩ := exists_between_cuts hbefore
  have hnNat : (UInt64.ofNat n).toNat = n := UInt64.toNat_ofNat_of_lt' (hn.trans workers.toNat_lt)
  have hlt : UInt64.ofNat n < workers := UInt64.lt_iff_toNat_lt.2 (hnNat.symm ▸ hn)
  refine ⟨UInt64.ofNat n, ⟨hlt, ?_⟩, ?_⟩
  · rw [mem_partition_iff len hlt, hnNat]
    exact hbetween
  · rintro id ⟨hid, hmem⟩
    obtain ⟨hstart, hstop⟩ := (mem_partition_iff len hid).1 hmem
    have hle := le_of_between_cuts hstart hbetween.2
    have hge := le_of_between_cuts hbetween.1 hstop
    exact UInt64.toNat_inj.1 ((Nat.le_antisymm hle hge).trans hnNat.symm)

end Words

/-- Pieces that lie end to end from the first of some items to the last, so that every item is in just one
piece. No piece is longer than an earlier one, nor shorter by more than one item. -/
structure Tiles (len workers : UInt64) (piece : UInt64 → Span) : Prop where
  first : (piece 0).start = 0
  next : ∀ id < workers - 1, (piece (id + 1)).start = (piece id).stop
  last : (piece (workers - 1)).stop = len
  within : ∀ id < workers, (piece id).start ≤ (piece id).stop ∧ (piece id).stop ≤ len
  unique : ∀ i < len, ∃! id, id < workers ∧ i ∈ piece id
  balanced : ∀ a b, a ≤ b → b < workers →
    (piece b).size ≤ (piece a).size ∧ (piece a).size ≤ (piece b).size + 1

theorem tiles_partition {len workers : UInt64} (h : workers ≠ 0) :
    Tiles len workers fun id => partition len id workers := by
  have hpred := toNat_pred h
  have hpos : 0 < workers.toNat := by omega
  constructor
  · have hlt : 0 < workers := UInt64.lt_iff_toNat_lt.2 hpos
    obtain ⟨-, hstart, -⟩ := partition_cuts len hlt
    exact UInt64.toNat_inj.1 (hstart.trans cut_zero)
  · intro id hid
    have hidNat := UInt64.lt_iff_toNat_lt.1 hid
    have hsucc := toNat_succ hid
    have hlt : id < workers := UInt64.lt_iff_toNat_lt.2 (by omega)
    have hnext : id + 1 < workers := UInt64.lt_iff_toNat_lt.2 (by omega)
    obtain ⟨-, -, hstop⟩ := partition_cuts len hlt
    obtain ⟨-, hstart, -⟩ := partition_cuts len hnext
    rw [hsucc, ← hstop] at hstart
    exact UInt64.toNat_inj.1 hstart
  · have hlt : workers - 1 < workers := UInt64.lt_iff_toNat_lt.2 (by omega)
    obtain ⟨-, -, hstop⟩ := partition_cuts len hlt
    rw [hpred, cut_workers hpos] at hstop
    exact UInt64.toNat_inj.1 hstop
  · intro id hid
    obtain ⟨-, hstart, hstop⟩ := partition_cuts len hid
    rw [UInt64.le_iff_toNat_le, UInt64.le_iff_toNat_le, hstart, hstop]
    exact ⟨cut_mono (Nat.le_succ _), cut_le (UInt64.lt_iff_toNat_lt.1 hid)⟩
  · intro i hi
    exact existsUnique_piece hpos hi
  · intro a b hab hb
    have habNat := UInt64.le_iff_toNat_le.1 hab
    have ha : a < workers := UInt64.lt_iff_toNat_lt.2 (habNat.trans_lt (UInt64.lt_iff_toNat_lt.1 hb))
    rw [size_partition len ha, size_partition len hb]
    constructor <;> split <;> split <;> omega

/-- The pieces of the workers tile the items; nothing is multiplied or added on the way to them that is more
than the number of the items. Whoever is no worker has the empty piece behind them. -/
theorem partition_exact (len workers : UInt64) :
    (1 ≤ workers → Tiles len workers fun id => partition len id workers) ∧
    (∀ id, partitionWithin? len len id workers = some (partition len id workers)) ∧
    ∀ id, workers = 0 ∨ workers ≤ id → partition len id workers = ⟨len, len⟩ := by
  refine ⟨?_, ?_, ?_⟩
  · intro hpos
    apply tiles_partition
    rintro rfl
    exact absurd hpos (by decide)
  · intro id
    by_cases hlt : id < workers
    · exact (partition_cuts len hlt).1
    · have hle : workers ≤ id := UInt64.not_lt.1 hlt
      rw [partition_of_le len (.inr hle), partitionWithin?, if_pos (by simp [hle])]
  · intro id
    exact partition_of_le len

/-- As many items as there can be among three workers, and fewer items than workers. -/
theorem partition_exact_many_and_few :
    Tiles 18446744073709551615 3 (fun id => partition 18446744073709551615 id 3) ∧
    Tiles 3 5 (fun id => partition 3 id 5) ∧ partition 3 4 5 = ⟨3, 3⟩ ∧ partition 3 5 5 = ⟨3, 3⟩ := by
  obtain ⟨hmany, -, -⟩ := partition_exact 18446744073709551615 3
  obtain ⟨hfew, -, hbeyond⟩ := partition_exact 3 5
  exact ⟨hmany (by decide), hfew (by decide), by decide, hbeyond 5 (by decide)⟩

end Relay
