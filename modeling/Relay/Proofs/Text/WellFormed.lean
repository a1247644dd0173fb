import Mathlib.Data.List.Basic
import Relay.Text.Utf8

namespace Relay.Utf8

def Continues (n : Nat) : Prop := 0x80 ≤ n ∧ n ≤ 0xBF

/-- The bytes of one character: a first byte that tells their number, and bytes that continue it. The
second one is bounded further, so that no character has a longer spelling than it needs, is a surrogate, or
lies beyond the last code point. -/
inductive Character : List UInt8 → Prop
  | one {a : UInt8} (ha : a.toNat ≤ 0x7F) : Character [a]
  | two {a b : UInt8} (ha : 0xC2 ≤ a.toNat ∧ a.toNat ≤ 0xDF) (hb : Continues b.toNat) :
    Character [a, b]
  | three {a b c : UInt8} (ha : 0xE0 ≤ a.toNat ∧ a.toNat ≤ 0xEF) (hb : Continues b.toNat)
    (hc : Continues c.toNat) (hlong : a.toNat = 0xE0 → 0xA0 ≤ b.toNat)
    (hsurrogate : a.toNat = 0xED → b.toNat ≤ 0x9F) : Character [a, b, c]
  | four {a b c d : UInt8} (ha : 0xF0 ≤ a.toNat ∧ a.toNat ≤ 0xF4) (hb : Continues b.toNat)
    (hc : Continues c.toNat) (hd : Continues d.toNat) (hlong : a.toNat = 0xF0 → 0x90 ≤ b.toNat)
    (hlast : a.toNat = 0xF4 → b.toNat ≤ 0x8F) : Character [a, b, c, d]

/-- A row of characters. -/
inductive WellFormed : List UInt8 → Prop
  | nil : WellFormed []
  | cons {character rest : List UInt8} (h : Character character) (hrest : WellFormed rest) :
    WellFormed (character ++ rest)

variable {bytes : List UInt8} {text : String}

section Character

theorem exists_char {n : Nat} (h : n < 0xD800 ∨ 0xDFFF < n ∧ n < 0x110000) :
    ∃ c : Char, c.val.toNat = n :=
  ⟨Char.ofNatAux n h, rfl⟩

theorem character_encode (c : Char) : Character (String.utf8EncodeChar c) := by
  have hvalid : c.val.toNat < 0xD800 ∨ 0xDFFF < c.val.toNat ∧ c.val.toNat < 0x110000 := c.valid
  rw [String.utf8EncodeChar]
  generalize c.val.toNat = n at hvalid
  have hbyte {m : Nat} (h : m < 256) : (UInt8.ofNat m).toNat = m := UInt8.toNat_ofNat_of_lt h
  have htail (m : Nat) : Continues (UInt8.ofNat (m % 64 + 128)).toNat := by
    rw [hbyte (by omega), Continues]
    omega
  split
  · refine .one ?_
    rw [hbyte (by omega)]
    assumption
  · split
    · refine .two ?_ (htail n)
      rw [hbyte (by omega)]
      omega
    · split
      · refine .three ?_ (htail _) (htail n) ?_ ?_ <;> rw [hbyte (by omega)]
        · omega
        · rw [hbyte (by omega)]
          omega
        · rw [hbyte (by omega)]
          omega
      · refine .four ?_ (htail _) (htail _) (htail n) ?_ ?_ <;> rw [hbyte (by omega)]
        · omega
        · rw [hbyte (by omega)]
          omega
        · rw [hbyte (by omega)]
          omega

theorem Character.exists_encode (h : Character bytes) : ∃ c, String.utf8EncodeChar c = bytes := by
  have hbyte {m : Nat} {a : UInt8} (h : m = a.toNat) : UInt8.ofNat m = a := by
    rw [h, UInt8.ofNat_toNat]
  cases h with
  | @one a ha =>
    obtain ⟨c, hc⟩ := exists_char (n := a.toNat) (by omega)
    refine ⟨c, ?_⟩
    rw [String.utf8EncodeChar]
    simp only [hc]
    rw [if_pos ha, hbyte rfl]
  | @two a b ha hb =>
    obtain ⟨hb, hb'⟩ := hb
    obtain ⟨c, hc⟩ := exists_char (n := (a.toNat - 0xC0) * 64 + (b.toNat - 0x80)) (by omega)
    refine ⟨c, ?_⟩
    rw [String.utf8EncodeChar]
    simp only [hc]
    rw [if_neg (by omega), if_pos (by omega), hbyte (a := a) (by omega), hbyte (a := b) (by omega)]
  | @three a b c ha hb hc hlong hsurrogate =>
    obtain ⟨hb, hb'⟩ := hb
    obtain ⟨hc, hc'⟩ := hc
    obtain ⟨d, hd⟩ := exists_char
      (n := (a.toNat - 0xE0) * 4096 + (b.toNat - 0x80) * 64 + (c.toNat - 0x80)) (by omega)
    refine ⟨d, ?_⟩
    rw [String.utf8EncodeChar]
    simp only [hd]
    rw [if_neg (by omega), if_neg (by omega), if_pos (by omega), hbyte (a := a) (by omega),
      hbyte (a := b) (by omega), hbyte (a := c) (by omega)]
  | @four a b c d ha hb hc hd hlong hlast =>
    obtain ⟨hb, hb'⟩ := hb
    obtain ⟨hc, hc'⟩ := hc
    obtain ⟨hd, hd'⟩ := hd
    obtain ⟨e, he⟩ := exists_char (n := (a.toNat - 0xF0) * 262144 + (b.toNat - 0x80) * 4096 +
      (c.toNat - 0x80) * 64 + (d.toNat - 0x80)) (by omega)
    refine ⟨e, ?_⟩
    rw [String.utf8EncodeChar]
    simp only [he]
    rw [if_neg (by omega), if_neg (by omega), if_neg (by omega), hbyte (a := a) (by omega),
      hbyte (a := b) (by omega), hbyte (a := c) (by omega), hbyte (a := d) (by omega)]

/-- The byte strings that stand for one character are the encodings of characters. -/
theorem character_iff : Character bytes ↔ ∃ c, String.utf8EncodeChar c = bytes := by
  constructor
  · exact Character.exists_encode
  · rintro ⟨c, rfl⟩
    exact character_encode c

end Character

section WellFormed

theorem wellFormed_encode (cs : List Char) : WellFormed (cs.flatMap String.utf8EncodeChar) := by
  induction cs with
  | nil => exact .nil
  | cons c cs ih =>
    rw [List.flatMap_cons]
    exact .cons (character_encode c) ih

theorem WellFormed.exists_encode (h : WellFormed bytes) :
    ∃ cs : List Char, cs.flatMap String.utf8EncodeChar = bytes := by
  induction h with
  | nil => exact ⟨[], rfl⟩
  | cons h _ ih =>
    obtain ⟨c, rfl⟩ := h.exists_encode
    obtain ⟨cs, rfl⟩ := ih
    exact ⟨c :: cs, List.flatMap_cons⟩

theorem utf8Encode_eq (cs : List Char) :
    cs.utf8Encode = ⟨(cs.flatMap String.utf8EncodeChar).toArray⟩ := by
  rw [List.utf8Encode]
  exact ByteArray.ext List.data_toByteArray

/-- What the library takes for UTF-8, the encodings of rows of characters, is what is well formed. -/
theorem isValidUTF8_iff : ByteArray.IsValidUTF8 ⟨bytes.toArray⟩ ↔ WellFormed bytes := by
  constructor
  · rintro ⟨cs, hcs⟩
    rw [utf8Encode_eq] at hcs
    injection hcs with hcs
    injection hcs with hcs
    rw [hcs]
    exact wellFormed_encode cs
  · intro h
    obtain ⟨cs, rfl⟩ := h.exists_encode
    exact ⟨cs, (utf8Encode_eq cs).symm⟩

end WellFormed

section Decode

theorem toList_loop (bytes : ByteArray) (i : Nat) (read : List UInt8) :
    ByteArray.toList.loop bytes i read = read.reverse ++ bytes.data.toList.drop i := by
  induction i, read using ByteArray.toList.loop.induct bytes with
  | case1 i read hlt ih =>
    have hi : i < bytes.data.toList.length := hlt
    have hget : bytes.get! i = bytes.data.toList[i] := getElem!_pos bytes.data i hlt
    rw [ByteArray.toList.loop, if_pos hlt, ih, List.drop_eq_getElem_cons hi, hget, List.reverse_cons,
      List.append_assoc, List.singleton_append]
  | case2 i read hge =>
    rw [ByteArray.toList.loop, if_neg hge, List.drop_eq_nil_of_le (Nat.le_of_not_lt hge),
      List.append_nil]

theorem toList_eq (bytes : ByteArray) : bytes.toList = bytes.data.toList := by
  rw [ByteArray.toList, toList_loop]
  rfl

theorem decode_encode (text : String) : decode (encode text) = .ok text := by
  have hbytes : (⟨(encode text).toArray⟩ : ByteArray) = text.toUTF8 := by
    rw [encode, toList_eq]
  have hvalid : text.toUTF8.IsValidUTF8 := text.isValidUTF8
  rw [decode, hbytes, String.fromUTF8?, dif_pos hvalid]
  rfl

/-- A text is read from the bytes that it is encoded as, and from no others. -/
theorem decode_eq_ok_iff : decode bytes = .ok text ↔ encode text = bytes := by
  constructor
  · intro h
    rw [decode, String.fromUTF8?] at h
    split at h
    next found hfound =>
      split at hfound
      · cases hfound
        cases h
        rw [encode, toList_eq]
        rfl
      · cases hfound
    next => cases h
  · rintro rfl
    exact decode_encode text

theorem exists_decode_iff : (∃ text, decode bytes = .ok text) ↔ WellFormed bytes := by
  rw [← isValidUTF8_iff]
  constructor
  · rintro ⟨text, h⟩
    obtain rfl := decode_eq_ok_iff.1 h
    rw [encode, toList_eq]
    exact text.isValidUTF8
  · intro h
    refine ⟨String.fromUTF8 ⟨bytes.toArray⟩ h, ?_⟩
    rw [decode, String.fromUTF8?, dif_pos h]

end Decode

section Scanning

theorem isTail_iff {b : UInt8} : isTail b = true ↔ Continues b.toNat := by
  simp [isTail, Continues, UInt8.le_iff_toNat_le]

theorem width_eq_some_iff {b : UInt8} {n : Nat} :
    width b = some n ↔
      n = 1 ∧ b.toNat ≤ 0x7F ∨ n = 2 ∧ 0xC2 ≤ b.toNat ∧ b.toNat ≤ 0xDF ∨
        n = 3 ∧ 0xE0 ≤ b.toNat ∧ b.toNat ≤ 0xEF ∨ n = 4 ∧ 0xF0 ≤ b.toNat ∧ b.toNat ≤ 0xF4 := by
  simp only [width, UInt8.le_iff_toNat_le, Bool.and_eq_true, decide_eq_true_eq, UInt8.reduceToNat]
  split
  · simp only [Option.some.injEq]
    omega
  · split
    · simp only [Option.some.injEq]
      omega
    · split
      · simp only [Option.some.injEq]
        omega
      · split
        · simp only [Option.some.injEq]
          omega
        · simp only [reduceCtorEq, false_iff]
          omega

theorem isSecond_iff {b next : UInt8} :
    isSecond b next = true ↔ Continues next.toNat ∧
      (b.toNat = 0xE0 → 0xA0 ≤ next.toNat) ∧ (b.toNat = 0xED → next.toNat ≤ 0x9F) ∧
      (b.toNat = 0xF0 → 0x90 ≤ next.toNat) ∧ (b.toNat = 0xF4 → next.toNat ≤ 0x8F) := by
  have hbyte {m : UInt8} : (b == m) = true ↔ b.toNat = m.toNat := by
    rw [beq_iff_eq, ← UInt8.toNat_inj]
  simp only [isSecond, hbyte, UInt8.reduceToNat]
  repeat' split
  all_goals
    simp only [isTail, Continues, UInt8.le_iff_toNat_le, Bool.and_eq_true, decide_eq_true_eq,
      UInt8.reduceToNat]
    omega

theorem frontTail_append {tail : List UInt8} (htail : ∀ b ∈ tail, Continues b.toNat) (seen : Nat)
    (more : List UInt8) :
    frontTail (seen + tail.length) seen (tail ++ more) = .character (seen + tail.length) := by
  induction tail generalizing seen with
  | nil => cases more <;> exact if_pos rfl
  | cons b tail ih =>
    obtain ⟨hb, htail⟩ := List.forall_mem_cons.1 htail
    have hnext := ih htail (seen + 1)
    rw [List.length_cons, List.cons_append, frontTail, if_neg (by omega), if_pos (isTail_iff.2 hb)]
    rwa [Nat.add_right_comm] at hnext

theorem exists_of_frontTail {seen missing n : Nat} {rest : List UInt8}
    (h : frontTail (seen + missing) seen rest = .character n) :
    n = seen + missing ∧ ∃ tail more, rest = tail ++ more ∧ tail.length = missing ∧
      ∀ b ∈ tail, Continues b.toNat := by
  induction rest generalizing seen missing with
  | nil =>
    rw [frontTail] at h
    split at h
    next hseen =>
      cases h
      exact ⟨rfl, [], [], rfl, by rw [List.length_nil]; omega, nofun⟩
    next => cases h
  | cons b rest ih =>
    rw [frontTail] at h
    split at h
    next hseen =>
      cases h
      exact ⟨rfl, [], b :: rest, rfl, by rw [List.length_nil]; omega, nofun⟩
    next hseen =>
      split at h
      next hb =>
        obtain ⟨missing, rfl⟩ := Nat.exists_eq_succ_of_ne_zero (n := missing) (by omega)
        rw [Nat.succ_eq_add_one, ← Nat.add_assoc, Nat.add_right_comm] at h
        obtain ⟨hn, tail, more, rfl, hlength, htail⟩ := ih h
        exact ⟨by omega, b :: tail, more, rfl, congrArg Nat.succ hlength,
          List.forall_mem_cons.2 ⟨isTail_iff.1 hb, htail⟩⟩
      next => cases h

theorem front_nil {b : UInt8} {missing : Nat} (hwidth : width b = some (2 + missing)) :
    front b [] = .cut := by
  rw [Nat.add_comm] at hwidth
  simp [front, hwidth]

theorem front_cons {b : UInt8} {missing : Nat} (hwidth : width b = some (2 + missing)) (next : UInt8)
    (rest : List UInt8) :
    front b (next :: rest) =
      if isSecond b next then frontTail (2 + missing) 2 rest else .faulty 1 := by
  rw [Nat.add_comm] at hwidth ⊢
  simp [front, hwidth]

theorem Character.front_eq {b : UInt8} {tail : List UInt8} (h : Character (b :: tail))
    (more : List UInt8) : front b (tail ++ more) = .character (tail.length + 1) := by
  have hfront (next : UInt8) (rest : List UInt8) (hwidth : width b = some (2 + rest.length))
      (hnext : isSecond b next = true) (hrest : ∀ c ∈ rest, Continues c.toNat) :
      front b (next :: (rest ++ more)) = .character (2 + rest.length) := by
    rw [front_cons hwidth, if_pos hnext, frontTail_append hrest]
  cases h with
  | one ha =>
    have hwidth : width b = some 1 := width_eq_some_iff.2 (by omega)
    simp [front, hwidth]
  | @two _ next ha hb =>
    have hwidth : width b = some 2 := width_eq_some_iff.2 (by omega)
    have hnext : isSecond b next = true := isSecond_iff.2 ⟨hb, by omega⟩
    exact hfront next [] hwidth hnext nofun
  | @three _ next c ha hb hc hlong hsurrogate =>
    have hwidth : width b = some 3 := width_eq_some_iff.2 (by omega)
    have hnext : isSecond b next = true := isSecond_iff.2 ⟨hb, by omega⟩
    exact hfront next [c] hwidth hnext (by simpa using hc)
  | @four _ next c d ha hb hc hd hlong hlast =>
    have hwidth : width b = some 4 := width_eq_some_iff.2 (by omega)
    have hnext : isSecond b next = true := isSecond_iff.2 ⟨hb, by omega⟩
    exact hfront next [c, d] hwidth hnext (by simpa using ⟨hc, hd⟩)

theorem exists_of_front {b : UInt8} {rest : List UInt8} {n : Nat} (h : front b rest = .character n) :
    ∃ tail more, rest = tail ++ more ∧ n = tail.length + 1 ∧ Character (b :: tail) := by
  have hfront (missing : Nat) (hwidth : width b = some (2 + missing)) :
      ∃ next tail more, rest = next :: tail ++ more ∧ n = 2 + missing ∧ tail.length = missing ∧
        isSecond b next = true ∧ ∀ c ∈ tail, Continues c.toNat := by
    cases rest with
    | nil =>
      rw [front_nil hwidth] at h
      cases h
    | cons next rest =>
      rw [front_cons hwidth] at h
      split at h
      next hnext =>
        obtain ⟨hn, tail, more, rfl, hlength, htail⟩ := exists_of_frontTail h
        exact ⟨next, tail, more, rfl, hn, hlength, hnext, htail⟩
      next => cases h
  cases hwidth : width b with
  | none => simp [front, hwidth] at h
  | some total =>
    obtain ⟨rfl, hb⟩ | ⟨rfl, hb⟩ | ⟨rfl, hb⟩ | ⟨rfl, hb⟩ := width_eq_some_iff.1 hwidth
    · have hn : 1 = n := by simpa [front, hwidth] using h
      exact ⟨[], rest, rfl, hn.symm, .one hb⟩
    · obtain ⟨next, tail, more, rfl, hn, hlength, hnext, -⟩ := hfront 0 hwidth
      obtain rfl := List.length_eq_zero_iff.1 hlength
      exact ⟨[next], more, rfl, hn, .two hb (isSecond_iff.1 hnext).1⟩
    · obtain ⟨next, tail, more, rfl, hn, hlength, hnext, htail⟩ := hfront 1 hwidth
      obtain ⟨c, rfl⟩ := List.length_eq_one_iff.1 hlength
      obtain ⟨hnext, hlong, hsurrogate, -, -⟩ := isSecond_iff.1 hnext
      exact ⟨[next, c], more, rfl, hn, .three hb hnext (htail c (by simp)) hlong hsurrogate⟩
    · obtain ⟨next, tail, more, rfl, hn, hlength, hnext, htail⟩ := hfront 2 hwidth
      obtain ⟨c, d, rfl⟩ := List.length_eq_two.1 hlength
      obtain ⟨hnext, -, -, hlong, hlast⟩ := isSecond_iff.1 hnext
      exact ⟨[next, c, d], more, rfl, hn,
        .four hb hnext (htail c (by simp)) (htail d (by simp)) hlong hlast⟩

theorem firstFault_append (tail rest : List UInt8) (index : Nat) :
    firstFault index tail.length (tail ++ rest) = firstFault (index + tail.length) 0 rest := by
  induction tail generalizing index with
  | nil => rfl
  | cons b tail ih =>
    rw [List.length_cons, List.cons_append, firstFault, ih, Nat.add_assoc, Nat.add_comm 1]

theorem wellFormed_of_firstFault {index : Nat} (h : firstFault index 0 bytes = none) :
    WellFormed bytes := by
  -- The search passes the bytes of a character one by one, but only what follows them is searched anew.
  induction hlength : bytes.length using Nat.strongRecOn generalizing bytes index with
  | _ length ih =>
    cases bytes with
    | nil => exact .nil
    | cons b rest =>
      rw [firstFault] at h
      split at h
      next n hfront =>
        obtain ⟨tail, more, rfl, rfl, hcharacter⟩ := exists_of_front hfront
        rw [Nat.add_sub_cancel, firstFault_append] at h
        refine .cons hcharacter (ih more.length ?_ h rfl)
        rw [← hlength, List.length_cons, List.length_append]
        omega
      next => cases h
      next => cases h

theorem WellFormed.firstFault_eq (h : WellFormed bytes) (index : Nat) :
    firstFault index 0 bytes = none := by
  induction h generalizing index with
  | nil => rfl
  | @cons character rest h _ ih =>
    cases character with
    | nil => cases h
    | cons b tail =>
      rw [List.cons_append, firstFault, h.front_eq]
      exact (firstFault_append tail rest _).trans (ih _)

theorem firstFault_eq_none_iff : firstFault 0 0 bytes = none ↔ WellFormed bytes :=
  ⟨wellFormed_of_firstFault, fun h => h.firstFault_eq 0⟩

/-- The error for bytes that are no text is their first fault. -/
theorem decode_eq_error_iff {fault : Fault} :
    decode bytes = .error fault ↔ firstFault 0 0 bytes = some fault := by
  cases hfault : firstFault 0 0 bytes with
  | none =>
    obtain ⟨text, htext⟩ := exists_decode_iff.2 (firstFault_eq_none_iff.1 hfault)
    rw [htext]
    exact ⟨nofun, nofun⟩
  | some found =>
    have hill : ¬∃ text, decode bytes = .ok text := by
      rw [exists_decode_iff, ← firstFault_eq_none_iff, hfault]
      exact nofun
    rw [decode]
    split
    next text htext =>
      exact absurd ⟨text, by rw [decode, htext]⟩ hill
    next => simp [hfault]

end Scanning
end Relay.Utf8
