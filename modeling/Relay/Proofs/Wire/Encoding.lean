import Mathlib.Algebra.Order.Ring.Int
import Relay.Proofs.Text.WellFormed
import Relay.Wire.Message

namespace Relay.Message

section Signed

variable {w : Width}

theorem Width.pow_bytes (w : Width) : 256 ^ w.bytes = 2 ^ w.bits := by
  rw [Width.bits, Nat.pow_mul]

theorem Signed.coe_toNat (v : Signed w) : (v.toNat : Int) = v.val % (2 ^ w.bits : Nat) := by
  have hpos : (0 : Int) < (2 ^ w.bits : Nat) := Int.natCast_pos.2 (Nat.two_pow_pos _)
  have hmod : (0 : Int) ≤ v.val % (2 ^ w.bits : Nat) := Int.emod_nonneg _ hpos.ne'
  rw [Nat.cast_pow] at hmod ⊢
  exact Int.toNat_of_nonneg hmod

theorem Signed.toNat_lt (v : Signed w) : v.toNat < 2 ^ w.bits := by
  have hpos : (0 : Int) < (2 ^ w.bits : Nat) := Int.natCast_pos.2 (Nat.two_pow_pos _)
  have hlt := Int.emod_lt_of_pos v.val hpos
  rw [← v.coe_toNat] at hlt
  exact Int.ofNat_lt.1 hlt

theorem Signed.ofNat_toNat (v : Signed w) : Signed.ofNat w v.toNat = v := by
  obtain ⟨val, lower, upper⟩ := v
  have hval : (Signed.toNat ⟨val, lower, upper⟩ : Int).bmod (2 ^ w.bits) = val := by
    rw [Signed.coe_toNat, Int.emod_bmod]
    apply Int.bmod_eq_of_le
    · cases w <;> simpa [Width.bits, Width.bytes] using lower
    · cases w <;> simpa [Width.bits, Width.bytes] using upper
  simp only [Signed.ofNat, hval]

theorem Signed.toNat_ofNat {n : Nat} (hn : n < 2 ^ w.bits) : (Signed.ofNat w n).toNat = n := by
  apply Int.natCast_inj.1
  calc ((Signed.ofNat w n).toNat : Int)
      = (n : Int).bmod (2 ^ w.bits) % (2 ^ w.bits : Nat) := Signed.coe_toNat _
    _ = (n : Int) % (2 ^ w.bits : Nat) := Int.bmod_emod
    _ = n := Int.emod_eq_of_lt (Int.natCast_nonneg n) (Int.ofNat_lt.2 hn)

end Signed

section Numbered

variable {k : Kind} {length : Nat} {toNat : k.Value → Nat} {ofNat : Nat → k.Value}

/-- The values of a kind stand for the numbers that `length` bytes can spell, one for each, and are encoded
as these bytes. -/
structure Kind.Numbered (k : Kind) (length : Nat) (toNat : k.Value → Nat) (ofNat : Nat → k.Value) :
    Prop where
  toNat_lt : ∀ v, toNat v < 256 ^ length
  ofNat_toNat : ∀ v, ofNat (toNat v) = v
  toNat_ofNat : ∀ {n}, n < 256 ^ length → toNat (ofNat n) = n
  encode_eq : ∀ v, k.encode v = BigEndian.bytes length (toNat v)
  decode_eq : ∀ payload, k.decode payload = (wordOf k length payload).map ofNat

theorem wordOf_bytes (k : Kind) {length n : Nat} (hn : n < 256 ^ length) :
    wordOf k length (BigEndian.bytes length n) = .ok n := by
  rw [wordOf, if_pos (BigEndian.length_bytes _ _), BigEndian.value_bytes, Nat.mod_eq_of_lt hn]

theorem Kind.Numbered.length_encode (h : k.Numbered length toNat ofNat) (v : k.Value) :
    (k.encode v).length = length := by
  rw [h.encode_eq, BigEndian.length_bytes]

theorem Kind.Numbered.encode_ofNat (h : k.Numbered length toNat ofNat) {payload : List UInt8}
    (hlength : payload.length = length) : k.encode (ofNat (BigEndian.value payload)) = payload := by
  have hlt : BigEndian.value payload < 256 ^ length := hlength ▸ BigEndian.value_lt payload
  rw [h.encode_eq, h.toNat_ofNat hlt, ← hlength, BigEndian.bytes_value]

theorem Kind.Numbered.decode_eq_ok_iff (h : k.Numbered length toNat ofNat) {payload : List UInt8}
    {v : k.Value} : k.decode payload = .ok v ↔ k.encode v = payload := by
  constructor
  · intro hdecode
    rw [h.decode_eq, wordOf] at hdecode
    split at hdecode
    next hlength =>
      cases hdecode
      exact h.encode_ofNat hlength
    next => cases hdecode
  · rintro rfl
    rw [h.decode_eq, h.encode_eq, wordOf_bytes k (h.toNat_lt v)]
    exact congrArg Except.ok (h.ofNat_toNat v)

theorem Kind.Numbered.exists_decode_iff (h : k.Numbered length toNat ofNat) {payload : List UInt8} :
    (∃ v, k.decode payload = .ok v) ↔ payload.length = length := by
  simp only [h.decode_eq_ok_iff]
  constructor
  · rintro ⟨v, rfl⟩
    exact h.length_encode v
  · intro hlength
    exact ⟨_, h.encode_ofNat hlength⟩

theorem numbered_unsigned (w : Width) :
    (Kind.unsigned w).Numbered w.bytes Fin.val (Fin.ofNat (2 ^ w.bits)) where
  toNat_lt v := w.pow_bytes.symm ▸ v.isLt
  ofNat_toNat v := Fin.ofNat_val_eq_self v
  toNat_ofNat hn := Nat.mod_eq_of_lt (w.pow_bytes ▸ hn)
  encode_eq _ := rfl
  decode_eq _ := rfl

theorem numbered_signed (w : Width) :
    (Kind.signed w).Numbered w.bytes Signed.toNat (Signed.ofNat w) where
  toNat_lt v := w.pow_bytes.symm ▸ v.toNat_lt
  ofNat_toNat v := v.ofNat_toNat
  toNat_ofNat hn := Signed.toNat_ofNat (w.pow_bytes ▸ hn)
  encode_eq _ := rfl
  decode_eq _ := rfl

theorem numbered_single : Kind.single.Numbered 4 UInt32.toNat UInt32.ofNat where
  toNat_lt v := v.toNat_lt
  ofNat_toNat _ := UInt32.ofNat_toNat
  toNat_ofNat hn := UInt32.toNat_ofNat_of_lt' hn
  encode_eq _ := rfl
  decode_eq _ := rfl

theorem numbered_double : Kind.double.Numbered 8 UInt64.toNat UInt64.ofNat where
  toNat_lt v := v.toNat_lt
  ofNat_toNat _ := UInt64.ofNat_toNat
  toNat_ofNat hn := UInt64.toNat_ofNat_of_lt' hn
  encode_eq _ := rfl
  decode_eq _ := rfl

theorem Kind.exists_numbered {k : Kind} {length : Nat} (h : k.fixedLength = some length) :
    ∃ toNat ofNat, k.Numbered length toNat ofNat := by
  cases k with
  | raw | bytes | text => cases h
  | unsigned w =>
    cases h
    exact ⟨_, _, numbered_unsigned w⟩
  | signed w =>
    cases h
    exact ⟨_, _, numbered_signed w⟩
  | single =>
    cases h
    exact ⟨_, _, numbered_single⟩
  | double =>
    cases h
    exact ⟨_, _, numbered_double⟩

end Numbered

section Decode

theorem decode_text_eq_ok_iff {payload : List UInt8} {text : String} :
    Kind.decode .text payload = .ok text ↔ Utf8.decode payload = .ok text := by
  rw [Kind.decode]
  cases Utf8.decode payload <;> simp [Except.mapError]

variable {k : Kind} {payload : List UInt8} {v : k.Value}

/-- A value is decoded from the bytes that it is encoded as, and from no others. -/
theorem Kind.decode_eq_ok_iff : k.decode payload = .ok v ↔ k.encode v = payload := by
  cases k with
  | raw | bytes => exact ⟨fun h => (Except.ok.inj h).symm, fun h => congrArg Except.ok h.symm⟩
  | text => exact decode_text_eq_ok_iff.trans Utf8.decode_eq_ok_iff
  | unsigned w => exact (numbered_unsigned w).decode_eq_ok_iff
  | signed w => exact (numbered_signed w).decode_eq_ok_iff
  | single => exact numbered_single.decode_eq_ok_iff
  | double => exact numbered_double.decode_eq_ok_iff

/-- What stands in a buffer already does not matter to what is appended. -/
theorem Kind.append_eq (k : Kind) (v : k.Value) (buffer : List UInt8) :
    k.append v buffer = buffer ++ k.encode v := by
  cases k <;> rfl

theorem Kind.decode_encode (k : Kind) (v : k.Value) : k.decode (k.encode v) = .ok v :=
  Kind.decode_eq_ok_iff.2 rfl

/-- Every value of a kind has one encoding, appended as it stands, from which alone it is decoded; where the
kind has a length, these are the byte strings of this length, and those of texts are the well-formed ones. -/
theorem Kind.encoding_exact :
    (∀ (k : Kind) (v : k.Value),
      k.decode (k.encode v) = .ok v ∧
      (∀ buffer, k.append v buffer = buffer ++ k.encode v) ∧
      ∀ length, k.fixedLength = some length → (k.encode v).length = length) ∧
    (∀ (k : Kind) (payload : List UInt8),
      (∀ v, k.decode payload = .ok v → k.encode v = payload) ∧
      ∀ length, k.fixedLength = some length →
        ((∃ v, k.decode payload = .ok v) ↔ payload.length = length)) ∧
    ∀ payload, (∃ text, Kind.decode .text payload = .ok text) ↔ Utf8.WellFormed payload := by
  refine ⟨?values, ?payloads, ?texts⟩
  case values =>
    intro k v
    refine ⟨k.decode_encode v, k.append_eq v, ?_⟩
    intro length hlength
    obtain ⟨toNat, ofNat, h⟩ := Kind.exists_numbered hlength
    exact h.length_encode v
  case payloads =>
    intro k payload
    refine ⟨fun v => Kind.decode_eq_ok_iff.1, ?_⟩
    intro length hlength
    obtain ⟨toNat, ofNat, h⟩ := Kind.exists_numbered hlength
    exact h.exists_decode_iff
  case texts =>
    intro payload
    exact (exists_congr fun text => decode_text_eq_ok_iff).trans Utf8.exists_decode_iff

/-- The kinds and payloads at which the statement has something to say: a negative number, the bits of
what is no number, and a text of two bytes. -/
theorem Kind.encoding_exact_negative :
    (Kind.signed .w16).decode [0xFF, 0xFE] = .ok ⟨-2, by decide, by decide⟩ ∧
    (Kind.signed .w16).encode ⟨-2, by decide, by decide⟩ = [0xFF, 0xFE] ∧
    Kind.double.fixedLength = some 8 ∧ (Kind.double.encode 0x7FF8000000000001).length = 8 ∧
    (¬∃ v, Kind.double.decode [0x7F, 0xF8] = .ok v) ∧
    Utf8.WellFormed [0xC3, 0xA9] ∧ ∃ text, Kind.decode .text [0xC3, 0xA9] = .ok text := by
  obtain ⟨values, payloads, texts⟩ := Kind.encoding_exact
  have hdecode : (Kind.signed .w16).decode [0xFF, 0xFE] = .ok ⟨-2, by decide, by decide⟩ :=
    Kind.decode_eq_ok_iff.2 (by decide)
  have hencode := (payloads (.signed .w16) [0xFF, 0xFE]).1 _ hdecode
  have hlength := (values .double 0x7FF8000000000001).2.2 8 rfl
  have hshort := (payloads .double [0x7F, 0xF8]).2 8 rfl
  have hwell : Utf8.WellFormed [0xC3, 0xA9] :=
    .cons (.two (by decide) ⟨by decide, by decide⟩) .nil
  refine ⟨hdecode, hencode, rfl, hlength, ?_, hwell, (texts _).2 hwell⟩
  rw [hshort]
  decide

end Decode

end Relay.Message
