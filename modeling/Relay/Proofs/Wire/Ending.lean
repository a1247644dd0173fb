import Relay.Proofs.Wire.Framing

namespace Relay.Frame

variable {limit : Nat} {buffer t : Bytes} {e : Error}

/-- The bytes that a buffer has to hold for its first frame, as far as it tells: the header, and what the
header announces. -/
def needs (buffer : Bytes) : Nat := headerLength + (announced? buffer).getD 0

theorem announced?_eq_none_iff : announced? buffer = none ↔ buffer.length < headerLength := by
  unfold announced?
  split
  · exact iff_of_true rfl ‹_›
  · exact iff_of_false nofun ‹_›

theorem needs_of_announced {length : Nat} (h : announced? buffer = some length) :
    needs buffer = headerLength + length := by
  rw [needs, h, Option.getD_some]

theorem needs_of_header_cut (h : buffer.length < headerLength) : needs buffer = headerLength := by
  rw [needs, announced?_eq_none_iff.2 h]
  rfl

namespace Incomplete

theorem lt_needs (h : Incomplete limit buffer) : buffer.length < needs buffer := by
  cases ha : announced? buffer with
  | none =>
    have hcut := announced?_eq_none_iff.1 ha
    rw [needs_of_header_cut hcut]
    exact hcut
  | some length =>
    rw [needs_of_announced ha]
    exact (h length ha).2

theorem append_of_lt (h : Incomplete limit buffer) (hshort : (buffer ++ t).length < needs buffer) :
    Incomplete limit (buffer ++ t) := by
  intro length hlength
  cases ha : announced? buffer with
  | none =>
    -- The header is cut short, and what follows does not complete it.
    rw [needs_of_header_cut (announced?_eq_none_iff.1 ha)] at hshort
    rw [announced?_eq_none_iff.2 hshort] at hlength
    cases hlength
  | some announced =>
    rw [announced?_append ha] at hlength
    cases hlength
    rw [needs_of_announced ha] at hshort
    exact ⟨(h length ha).1, hshort⟩

end Incomplete

theorem decode_append_of_short (h : Incomplete limit buffer)
    (hshort : (buffer ++ t).length < needs buffer) :
    decode limit (buffer ++ t) = (.ok none, buffer ++ t) :=
  decode_incomplete (h.append_of_lt hshort)

/-- Once the header is whole, the frame comes with the bytes that the buffer needs. -/
theorem decode_append_of_enough (h : Incomplete limit buffer) (hheader : headerLength ≤ buffer.length)
    (henough : needs buffer ≤ (buffer ++ t).length) :
    ∃ payload, payload.length = needs buffer - headerLength ∧
      decode limit (buffer ++ t) = (.ok (some payload), (buffer ++ t).drop (needs buffer)) := by
  obtain ⟨length, ha⟩ : ∃ length, announced? buffer = some length :=
    Option.ne_none_iff_exists'.1 fun hnone => by
      have hcut := announced?_eq_none_iff.1 hnone
      omega
  rw [needs_of_announced ha] at henough ⊢
  refine ⟨((buffer ++ t).drop headerLength).take length, ?_, ?_⟩
  · rw [List.length_take, List.length_drop]
    omega
  · have hwithin := (h length ha).1
    rw [decode, announced?_append ha]
    simp only
    rw [if_neg (by omega), if_neg (by omega), List.drop_drop]

theorem decode_eq_error_iff {rest : Bytes} : decode limit buffer = (.error e, rest) ↔
    ∃ length, announced? buffer = some length ∧ limit < length ∧ e = .tooLarge length limit ∧
      rest = buffer := by
  constructor
  · intro h
    rcases buffer_cases limit buffer with hshort | ⟨length, hlength, hlimit⟩ |
      ⟨payload, frame, left, hframe, rfl⟩
    · rw [decode_incomplete hshort] at h
      cases h
    · rw [decode_tooLarge hlength hlimit] at h
      cases h
      exact ⟨length, hlength, hlimit, rfl, rfl⟩
    · rw [decode_encode hframe] at h
      cases h
  · rintro ⟨length, hlength, hlimit, rfl, rfl⟩
    exact decode_tooLarge hlength hlimit

/-- A refusal is final. -/
theorem decode_append_of_refused {rest : Bytes} (h : decode limit buffer = (.error e, rest))
    (t : Bytes) : decode limit (buffer ++ t) = (.error e, buffer ++ t) := by
  obtain ⟨length, hlength, hlimit, rfl, -⟩ := decode_eq_error_iff.1 h
  exact decode_tooLarge (announced?_append hlength t) hlimit

theorem decode_unchanged_or_some (limit : Nat) (buffer : Bytes) :
    (decode limit buffer).2 = buffer ∨ ∃ payload, (decode limit buffer).1 = .ok (some payload) := by
  rcases buffer_cases limit buffer with hshort | ⟨length, hlength, hlimit⟩ |
    ⟨payload, frame, left, hframe, rfl⟩
  · exact .inl (by rw [decode_incomplete hshort])
  · exact .inl (by rw [decode_tooLarge hlength hlimit])
  · exact .inr ⟨payload, by rw [decode_encode hframe]⟩

/-- At the end of a stream, what is cut short inside a frame is refused as truncated; else the answer is
that of any other moment. -/
theorem decodeEnd_cases (limit : Nat) (buffer : Bytes) :
    (buffer = [] ∧ decodeEnd limit buffer = (.ok none, [])) ∨
    (Incomplete limit buffer ∧ buffer ≠ [] ∧
      decodeEnd limit buffer = (.error (.truncated (needs buffer) buffer.length), buffer)) ∨
    (∃ length, decodeEnd limit buffer = (.error (.tooLarge length limit), buffer)) ∨
    ∃ payload rest, buffer ≠ [] ∧ decodeEnd limit buffer = (.ok (some payload), rest) := by
  rcases buffer_cases limit buffer with hshort | ⟨length, hlength, hlimit⟩ |
    ⟨payload, frame, rest, hframe, rfl⟩
  · by_cases hempty : buffer = []
    · subst hempty
      exact .inl ⟨rfl, rfl⟩
    · refine .inr (.inl ⟨hshort, hempty, ?_⟩)
      rw [decodeEnd, decode_incomplete hshort]
      exact if_neg fun h => hempty (List.isEmpty_iff.1 h)
  · refine .inr (.inr (.inl ⟨length, ?_⟩))
    rw [decodeEnd, decode_tooLarge hlength hlimit]
  · refine .inr (.inr (.inr ⟨payload, rest, ?_, ?_⟩))
    · obtain ⟨-, -, rfl⟩ := encode_eq_ok_iff.1 hframe
      have hpos : 0 < (BigEndian.bytes headerLength payload.length ++ payload ++ rest).length := by
        rw [List.length_append, List.length_append, BigEndian.length_bytes, headerLength]
        omega
      exact List.ne_nil_of_length_pos hpos
    · rw [decodeEnd, decode_encode hframe]

theorem decodeEnd_unchanged_or_some (limit : Nat) (buffer : Bytes) :
    (decodeEnd limit buffer).2 = buffer ∨
      ∃ payload, (decodeEnd limit buffer).1 = .ok (some payload) := by
  rcases decodeEnd_cases limit buffer with ⟨hempty, heq⟩ | ⟨-, -, heq⟩ | ⟨length, heq⟩ |
    ⟨payload, rest, -, heq⟩
  · exact .inl (by rw [heq, hempty])
  · exact .inl (by rw [heq])
  · exact .inl (by rw [heq])
  · exact .inr ⟨payload, by rw [heq]⟩

theorem incomplete_of_truncated {needed remaining : Nat}
    (h : (decodeEnd limit buffer).1 = .error (.truncated needed remaining)) :
    Incomplete limit buffer ∧ needed = needs buffer ∧ remaining = buffer.length := by
  rcases decodeEnd_cases limit buffer with ⟨-, heq⟩ | ⟨hincomplete, -, heq⟩ | ⟨length, heq⟩ |
    ⟨payload, rest, -, heq⟩
  · rw [heq] at h
    cases h
  · rw [heq] at h
    cases h
    exact ⟨hincomplete, rfl, rfl⟩
  · rw [heq] at h
    cases h
  · rw [heq] at h
    cases h

theorem decodeEnd_eq_none_iff : (decodeEnd limit buffer).1 = .ok none ↔ buffer = [] := by
  rcases decodeEnd_cases limit buffer with ⟨hempty, heq⟩ | ⟨-, hne, heq⟩ | ⟨length, heq⟩ |
    ⟨payload, rest, hne, heq⟩
  · exact iff_of_true (by rw [heq]) hempty
  · exact iff_of_false (by rw [heq]; nofun) hne
  · refine iff_of_false (by rw [heq]; nofun) ?_
    rintro rfl
    cases heq
  · exact iff_of_false (by rw [heq]; nofun) hne

/-- Taking a frame changes a buffer only when there is one. A refused buffer is refused for the same
reason whatever arrives behind it. A buffer that is reported as truncated yields no frame until it has the
bytes that were reported as needed and, if its header is whole, yields the announced frame as soon as it
has them. Only an empty buffer ends cleanly. -/
theorem decode_exact (limit : Nat) (buffer : Bytes) :
    ((decode limit buffer).2 = buffer ∨ ∃ payload, (decode limit buffer).1 = .ok (some payload)) ∧
    ((decodeEnd limit buffer).2 = buffer ∨
      ∃ payload, (decodeEnd limit buffer).1 = .ok (some payload)) ∧
    (∀ e, (decode limit buffer).1 = .error e → (∃ length, e = .tooLarge length limit) ∧
      ∀ t, decode limit (buffer ++ t) = (.error e, buffer ++ t)) ∧
    (∀ needed remaining, (decodeEnd limit buffer).1 = .error (.truncated needed remaining) →
      remaining = buffer.length ∧ remaining < needed ∧
      (∀ t, (buffer ++ t).length < needed → decode limit (buffer ++ t) = (.ok none, buffer ++ t)) ∧
      (4 ≤ buffer.length → ∀ t, needed ≤ (buffer ++ t).length → ∃ payload,
        payload.length = needed - 4 ∧
          decode limit (buffer ++ t) = (.ok (some payload), (buffer ++ t).drop needed))) ∧
    ((decodeEnd limit buffer).1 = .ok none ↔ buffer = []) := by
  refine ⟨decode_unchanged_or_some limit buffer, decodeEnd_unchanged_or_some limit buffer,
    fun e he => ?_, fun needed remaining he => ?_, decodeEnd_eq_none_iff⟩
  · have hrefused : decode limit buffer = (.error e, (decode limit buffer).2) := Prod.ext he rfl
    obtain ⟨length, -, -, htooLarge, -⟩ := decode_eq_error_iff.1 hrefused
    exact ⟨⟨length, htooLarge⟩, decode_append_of_refused hrefused⟩
  · obtain ⟨hincomplete, rfl, rfl⟩ := incomplete_of_truncated he
    exact ⟨rfl, hincomplete.lt_needs, fun t => decode_append_of_short hincomplete,
      fun hheader t => decode_append_of_enough hincomplete hheader⟩

/-- A frame of two bytes is cut short after the first, and one of nine is refused by its header. -/
theorem decode_exact_cut_short :
    (decodeEnd 3 [0, 0, 0, 2, 7]).1 = .error (.truncated 6 5) ∧
    decode 3 ([0, 0, 0, 2, 7] ++ []) = (.ok none, [0, 0, 0, 2, 7]) ∧
    (∃ payload, payload.length = 2 ∧ decode 3 ([0, 0, 0, 2, 7] ++ [8, 9]) = (.ok (some payload), [9])) ∧
    (decode 3 [0, 0, 0, 9]).1 = .error (.tooLarge 9 3) ∧
    decode 3 ([0, 0, 0, 9] ++ [1]) = (.error (.tooLarge 9 3), [0, 0, 0, 9, 1]) := by
  have htruncated : (decodeEnd 3 [0, 0, 0, 2, 7]).1 = .error (.truncated 6 5) := rfl
  have hrefused : (decode 3 [0, 0, 0, 9]).1 = .error (.tooLarge 9 3) := rfl
  obtain ⟨-, -, -, hneeds, -⟩ := decode_exact 3 [0, 0, 0, 2, 7]
  obtain ⟨-, -, hfew, henough⟩ := hneeds 6 5 htruncated
  obtain ⟨-, -, hfinal, -, -⟩ := decode_exact 3 [0, 0, 0, 9]
  exact ⟨htruncated, hfew [] (by decide), henough (by decide) [8, 9] (by decide), hrefused,
    (hfinal _ hrefused).2 [1]⟩

end Relay.Frame
