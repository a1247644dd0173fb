import Mathlib.Data.List.Perm.Basic
import Relay.Parallel.FanOut
import Relay.Proofs.Parallel.Tiling

namespace Relay

section Pieces

variable {α : Type} {len workers : Nat}

theorem flatMap_between_cuts (items : List α) (n : Nat) :
    (List.range n).flatMap (fun id => (items.drop (cut len workers id)).take
      (cut len workers (id + 1) - cut len workers id)) = items.take (cut len workers n) := by
  induction n with
  | zero => rw [cut_zero, List.range_zero, List.flatMap_nil, List.take_zero]
  | succ n ih =>
    have hcuts : cut len workers n ≤ cut len workers (n + 1) := cut_mono (Nat.le_succ n)
    have hsplit : cut len workers (n + 1) =
        cut len workers n + (cut len workers (n + 1) - cut len workers n) := by omega
    rw [List.range_succ, List.flatMap_append, ih, List.flatMap_singleton]
    conv_rhs => rw [hsplit, List.take_add]

/-- The pieces of all workers, one after the other, are the items. -/
theorem flatMap_slice_partition {workers : Nat} (items : List α) (hlength : items.length < UInt64.size)
    (hworkers : workers < UInt64.size) (hpos : 0 < workers) :
    (List.range workers).flatMap (fun id =>
      (partition (.ofNat items.length) (.ofNat id) (.ofNat workers)).slice items) = items := by
  have hlengthNat : (UInt64.ofNat items.length).toNat = items.length := UInt64.toNat_ofNat_of_lt' hlength
  have hworkersNat : (UInt64.ofNat workers).toNat = workers := UInt64.toNat_ofNat_of_lt' hworkers
  have hslice : ∀ id ∈ List.range workers,
      (partition (.ofNat items.length) (.ofNat id) (.ofNat workers)).slice items =
        (items.drop (cut items.length workers id)).take
          (cut items.length workers (id + 1) - cut items.length workers id) := by
    intro id hid
    have hlt := List.mem_range.1 hid
    have hidNat : (UInt64.ofNat id).toNat = id := UInt64.toNat_ofNat_of_lt' (hlt.trans hworkers)
    have hbelow : UInt64.ofNat id < UInt64.ofNat workers := by
      rw [UInt64.lt_iff_toNat_lt, hidNat, hworkersNat]
      exact hlt
    obtain ⟨-, hstart, hstop⟩ := partition_cuts (.ofNat items.length) hbelow
    rw [Span.slice, hstart, hstop, hlengthNat, hworkersNat, hidNat]
  calc _ = (List.range workers).flatMap (fun id => (items.drop (cut items.length workers id)).take
        (cut items.length workers (id + 1) - cut items.length workers id)) := List.flatMap_congr hslice
    _ = items.take (cut items.length workers workers) := flatMap_between_cuts items workers
    _ = items := by rw [cut_workers hpos, List.take_length]

end Pieces

namespace FanOut

theorem wrappingSum_cons (i : Int64) (items : List Int64) :
    wrappingSum (i :: items) = i + wrappingSum items := by
  rw [wrappingSum, List.foldl_cons, Int64.add_comm, List.foldl_assoc, wrappingSum]

theorem wrappingSum_append (items more : List Int64) :
    wrappingSum (items ++ more) = wrappingSum items + wrappingSum more := by
  induction items with
  | nil => exact (Int64.zero_add _).symm
  | cons i items ih => rw [List.cons_append, wrappingSum_cons, ih, wrappingSum_cons, Int64.add_assoc]

theorem wrappingSum_perm {items other : List Int64} (h : items.Perm other) :
    wrappingSum items = wrappingSum other :=
  h.foldl_op_eq

theorem wrappingSum_map_wrappingSum {α : Type} (pieces : List α) (items : α → List Int64) :
    wrappingSum (pieces.map fun piece => wrappingSum (items piece)) =
      wrappingSum (pieces.flatMap items) := by
  induction pieces with
  | nil => rfl
  | cons piece pieces ih =>
    rw [List.map_cons, wrappingSum_cons, ih, List.flatMap_cons, wrappingSum_append]

end FanOut

end Relay
