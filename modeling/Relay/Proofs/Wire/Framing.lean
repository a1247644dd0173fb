import Relay.Proofs.Wire.Streaming

namespace Relay.Frame

variable {limit : Nat} {payload frame buffer rest : Bytes} {payloads : List Bytes} {e : Error}

/-- Appends payloads one after another, up to the first that is refused. -/
def appendAll (limit : Nat) : List Bytes → Bytes → Except Error Unit × Bytes
  | [], buffer => (.ok (), buffer)
  | payload :: payloads, buffer =>
    match append limit payload buffer with
    | (.ok (), longer) => appendAll limit payloads longer
    | (.error e, unchanged) => (.error e, unchanged)

theorem append_encode (h : encode limit payload = .ok frame) (buffer : Bytes) :
    append limit payload buffer = (.ok (), buffer ++ frame) := by
  rw [append, h]

theorem encode_eq_error_iff : encode limit payload = .error e ↔
    min limit greatestLength < payload.length ∧
      e = .tooLarge payload.length (min limit greatestLength) := by
  simp only [encode]
  split
  · rename_i hlong
    rw [Except.error.injEq, eq_comm]
    exact (and_iff_right hlong).symm
  · rename_i hshort
    exact iff_of_false nofun fun h => hshort h.1

theorem append_eq_error_iff : append limit payload buffer = (.error e, rest) ↔
    min limit greatestLength < payload.length ∧
      e = .tooLarge payload.length (min limit greatestLength) ∧ rest = buffer := by
  rw [← and_assoc, ← encode_eq_error_iff, append]
  cases encode limit payload with
  | ok frame => exact iff_of_false nofun fun h => nomatch h.1
  | error refusal => rw [Prod.mk.injEq, Except.error.injEq, Except.error.injEq, eq_comm (a := rest)]

theorem append_accepts_iff : (append limit payload buffer).1 = .ok () ↔
    ∃ frame, encode limit payload = .ok frame := by
  rw [append]
  cases encode limit payload with
  | ok frame => exact iff_of_true rfl ⟨frame, rfl⟩
  | error e => exact iff_of_false nofun fun ⟨_, h⟩ => nomatch h

theorem appendAll_cons_encode (h : encode limit payload = .ok frame) (payloads : List Bytes)
    (buffer : Bytes) :
    appendAll limit (payload :: payloads) buffer = appendAll limit payloads (buffer ++ frame) := by
  rw [appendAll, append_encode h]

theorem appendAll_spells {s : Bytes} (h : Spells limit s payloads (.ok [])) (buffer : Bytes) :
    appendAll limit payloads buffer = (.ok (), buffer ++ s) := by
  generalize ho : Except.ok [] = ended at h
  induction h generalizing buffer with
  | incomplete =>
    cases ho
    rw [appendAll, List.append_nil]
  | tooLarge => cases ho
  | frame h _ ih => rw [appendAll_cons_encode h, ih _ ho, List.append_assoc]

theorem Spells.of_accepts (h : ∀ payload ∈ payloads, ∃ frame, encode limit payload = .ok frame) :
    ∃ s, Spells limit s payloads (.ok []) := by
  induction payloads with
  | nil => exact ⟨[], .incomplete nofun⟩
  | cons payload payloads ih =>
    obtain ⟨⟨frame, hframe⟩, hpayloads⟩ := List.forall_mem_cons.1 h
    obtain ⟨s, hs⟩ := ih hpayloads
    exact ⟨frame ++ s, .frame hframe hs⟩

theorem drain_eq_iff {s : Bytes} :
    drain limit s = ⟨payloads, none, rest⟩ ↔ Spells limit s payloads (.ok rest) := by
  rw [spells_iff]
  obtain ⟨frames, refusal, left⟩ := drain limit s
  cases refusal with
  | none => simp [Drained.outcome]
  | some e => simp [Drained.outcome]

/-- A buffer yields a frame just if it begins with that frame as it is written. -/
theorem decode_eq_some_iff : decode limit buffer = (.ok (some payload), rest) ↔
    ∃ frame, encode limit payload = .ok frame ∧ buffer = frame ++ rest := by
  constructor
  · intro h
    rcases buffer_cases limit buffer with hshort | ⟨length, hlength, hlimit⟩ |
      ⟨first, frame, left, hframe, rfl⟩
    · rw [decode_incomplete hshort] at h
      cases h
    · rw [decode_tooLarge hlength hlimit] at h
      cases h
    · rw [decode_encode hframe] at h
      cases h
      exact ⟨frame, hframe, rfl⟩
  · rintro ⟨frame, hframe, rfl⟩
    exact decode_encode hframe rest

/-- Payloads that are all accepted are written behind what the buffer holds, and the bytes written are
the only ones that yield just these payloads and then end cleanly. A frame that is taken is within the
limit, and what its payload is written as is what was taken. A payload beyond the limit, or beyond what
the header can hold, is refused and nothing is written. -/
theorem appendAll_bijective (limit : Nat) :
    (∀ payloads buffer, (∀ payload ∈ payloads, (append limit payload buffer).1 = .ok ()) →
      ∃ written, appendAll limit payloads buffer = (.ok (), buffer ++ written) ∧
        drain limit written = ⟨payloads, none, []⟩ ∧
        decodeEnd limit (drain limit written).rest = (.ok none, []) ∧
        ∀ s, drain limit s = ⟨payloads, none, []⟩ → s = written) ∧
    (∀ s payload rest, decode limit s = (.ok (some payload), rest) →
      payload.length ≤ limit ∧ ∃ frame, s = frame ++ rest ∧
        ∀ buffer, append limit payload buffer = (.ok (), buffer ++ frame)) ∧
    (∀ payload buffer e rest, append limit payload buffer = (.error e, rest) ↔
      min limit (2 ^ 32 - 1) < payload.length ∧
        e = .tooLarge payload.length (min limit (2 ^ 32 - 1)) ∧ rest = buffer) := by
  refine ⟨fun payloads buffer haccepted => ?_, fun s payload rest hdecoded => ?_,
    fun payload buffer e rest => append_eq_error_iff⟩
  · obtain ⟨written, hwritten⟩ :=
      Spells.of_accepts fun payload hmem => append_accepts_iff.1 (haccepted payload hmem)
    have hdrained := drain_eq_iff.2 hwritten
    have hempty : Incomplete limit [] := nofun
    have hend : decodeEnd limit [] = (.ok none, []) := by
      rw [decodeEnd, decode_incomplete hempty]
      rfl
    refine ⟨written, appendAll_spells hwritten buffer, hdrained, by rw [hdrained, hend], ?_⟩
    intro s hs
    have hsame := appendAll_spells (drain_eq_iff.1 hs) []
    rw [appendAll_spells hwritten] at hsame
    exact (congrArg Prod.snd hsame).symm
  · obtain ⟨frame, hframe, hs⟩ := decode_eq_some_iff.1 hdecoded
    exact ⟨(encode_eq_ok_iff.1 hframe).1, frame, hs, append_encode hframe⟩

/-- Three payloads, one of them empty, are written behind another byte; the first is taken back; and a
fourth is too long. -/
theorem appendAll_bijective_three_payloads :
    appendAll 3 [[7], [], [1, 2]] [9] =
      (.ok (), [9, 0, 0, 0, 1, 7, 0, 0, 0, 0, 0, 0, 0, 2, 1, 2]) ∧
    drain 3 [0, 0, 0, 1, 7, 0, 0, 0, 0, 0, 0, 0, 2, 1, 2] = ⟨[[7], [], [1, 2]], none, []⟩ ∧
    append 3 [7] [9] = (.ok (), [9] ++ [0, 0, 0, 1, 7]) ∧
    append 3 [1, 2, 3, 4] [9] = (.error (.tooLarge 4 3), [9]) := by
  obtain ⟨hwrite, htake, hrefuse⟩ := appendAll_bijective 3
  have haccepted : ∀ payload ∈ [[7], [], [1, 2]], (append 3 payload [9]).1 = .ok () := by
    simp [append_accepts_iff, encode, greatestLength]
  obtain ⟨written, happended, hdrained, -, -⟩ := hwrite _ _ haccepted
  have hbytes : appendAll 3 [[7], [], [1, 2]] [9] =
      (.ok (), [9] ++ [0, 0, 0, 1, 7, 0, 0, 0, 0, 0, 0, 0, 2, 1, 2]) := rfl
  have hsame := happended.symm.trans hbytes
  rw [Prod.mk.injEq, List.append_cancel_left_eq] at hsame
  obtain ⟨-, frame, hframe, hagain⟩ :=
    htake [0, 0, 0, 1, 7, 0, 0, 0, 0, 0, 0, 0, 2, 1, 2] [7] [0, 0, 0, 0, 0, 0, 0, 2, 1, 2] rfl
  have hfirst : frame = [0, 0, 0, 1, 7] := List.append_cancel_right hframe.symm
  exact ⟨hbytes, hsame.2 ▸ hdrained, hfirst ▸ hagain [9],
    (hrefuse _ _ _ _).2 ⟨by decide, by decide, rfl⟩⟩

end Relay.Frame
