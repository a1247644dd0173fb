import Relay.Power

namespace Relay.BigEndian

/-- The low `width` bytes of a number, most significant first. -/
def bytes : Nat → Nat → List UInt8
  | 0, _ => []
  | width + 1, n => bytes width (n / 256) ++ [UInt8.ofNat (n % 256)]

/-- The number that a byte string spells, most significant byte first. -/
def value (bs : List UInt8) : Nat :=
  bs.foldl (fun n b => 256 * n + b.toNat) 0

@[simp] theorem length_bytes (width n : Nat) : (bytes width n).length = width := by
  induction width generalizing n with
  | zero => rfl
  | succ width ih => simp [bytes, ih]

@[simp] theorem value_nil : value [] = 0 := rfl

@[simp] theorem value_concat (bs : List UInt8) (b : UInt8) :
    value (bs ++ [b]) = 256 * value bs + b.toNat := by
  simp [value, List.foldl_append]

theorem value_bytes (width n : Nat) : value (bytes width n) = n % 256 ^ width := by
  induction width generalizing n with
  | zero => simp [bytes, Nat.mod_one]
  | succ width ih =>
    have hb : (UInt8.ofNat (n % 256)).toNat = n % 256 := by
      simp [UInt8.toNat_ofNat']
    rw [bytes, value_concat, ih, hb, Nat.pow_succ, Nat.mul_comm (256 ^ width) 256, Nat.mod_mul]
    omega

theorem bytes_value (bs : List UInt8) : bytes bs.length (value bs) = bs := by
  induction h : bs.length generalizing bs with
  | zero => simp [bytes, List.length_eq_zero_iff.1 h]
  | succ n ih =>
    obtain rfl | ⟨init, b, rfl⟩ := List.eq_nil_or_concat bs
    · simp at h
    · have hb : b.toNat < 256 := b.toNat_lt
      have hlen : init.length = n := by simpa using h
      rw [List.concat_eq_append, value_concat, bytes, show (256 * value init + b.toNat) / 256 = value init by omega,
        show (256 * value init + b.toNat) % 256 = b.toNat by omega, ih init hlen]
      simp

theorem value_lt (bs : List UInt8) : value bs < 256 ^ bs.length := by
  rw [← bytes_value bs, value_bytes, length_bytes]
  exact Nat.mod_lt _ (Nat.pow_pos (by decide))

end Relay.BigEndian
