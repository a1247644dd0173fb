import Relay.Wire.Frame

namespace Relay.Frame

variable {limit : Nat} {s t rest payload frame : Bytes} {frames : List Bytes}
  {ending : Except Error Bytes}

theorem announced?_append {length : Nat} (h : announced? s = some length) (t : Bytes) :
    announced? (s ++ t) = some length := by
  unfold announced? at h ⊢
  split at h
  · cases h
  · rename_i hlong
    rw [if_neg (by rw [List.length_append]; omega), List.take_append_of_le_length (by omega)]
    exact h

theorem encode_eq_ok_iff : encode limit payload = .ok frame ↔
    payload.length ≤ limit ∧ payload.length < 2 ^ 32 ∧
      frame = BigEndian.bytes headerLength payload.length ++ payload := by
  unfold encode greatestLength
  simp only
  split
  · simp only [reduceCtorEq, false_iff]
    omega
  · simp only [Except.ok.injEq, eq_comm (b := frame)]
    constructor
    · exact fun h => ⟨by omega, by omega, h⟩
    · exact fun h => h.2.2

theorem announced?_header {n : Nat} (hn : n < 2 ^ 32) (s : Bytes) :
    announced? (BigEndian.bytes headerLength n ++ s) = some n := by
  have hvalue : BigEndian.value (BigEndian.bytes headerLength n) = n := by
    rw [BigEndian.value_bytes]
    exact Nat.mod_eq_of_lt hn
  unfold announced?
  rw [if_neg (by simp), List.take_left' (BigEndian.length_bytes _ _), hvalue]

theorem header_of_announced? {n : Nat} (h : announced? s = some n) :
    n < 2 ^ 32 ∧ s = BigEndian.bytes headerLength n ++ s.drop headerLength := by
  unfold announced? at h
  split at h
  · cases h
  · rename_i hlong
    cases h
    have htaken : (s.take headerLength).length = headerLength := by
      rw [List.length_take]
      omega
    have hheader := BigEndian.bytes_value (s.take headerLength)
    have hlt := BigEndian.value_lt (s.take headerLength)
    rw [htaken] at hheader hlt
    refine ⟨hlt, ?_⟩
    rw [hheader, List.take_append_drop]

/-- Too few bytes for a frame, as far as they tell. -/
def Incomplete (limit : Nat) (s : Bytes) : Prop :=
  ∀ length, announced? s = some length → length ≤ limit ∧ s.length < headerLength + length

theorem decode_encode (h : encode limit payload = .ok frame) (s : Bytes) :
    decode limit (frame ++ s) = (.ok (some payload), s) := by
  obtain ⟨hlimit, hlt, rfl⟩ := encode_eq_ok_iff.1 h
  have hdropped : (BigEndian.bytes headerLength payload.length ++ (payload ++ s)).drop
      headerLength = payload ++ s := List.drop_left' (BigEndian.length_bytes _ _)
  unfold decode
  rw [List.append_assoc, announced?_header hlt]
  simp only
  rw [if_neg (by omega), if_neg (by simp), hdropped, List.take_left' rfl, List.drop_left' rfl]

theorem decode_incomplete (h : Incomplete limit s) : decode limit s = (.ok none, s) := by
  unfold decode
  split
  · rfl
  · rename_i length hlength
    obtain ⟨hlimit, hshort⟩ := h length hlength
    rw [if_neg (by omega), if_pos hshort]

theorem decode_tooLarge {length : Nat} (h : announced? s = some length) (hlimit : limit < length) :
    decode limit s = (.error (.tooLarge length limit), s) := by
  unfold decode
  rw [h]
  exact if_pos hlimit

/-- A buffer is incomplete, announces a frame that is too large, or begins with a whole frame. -/
theorem buffer_cases (limit : Nat) (s : Bytes) : Incomplete limit s ∨
    (∃ length, announced? s = some length ∧ limit < length) ∨
    ∃ payload frame rest, encode limit payload = .ok frame ∧ s = frame ++ rest := by
  cases ha : announced? s with
  | none => exact .inl fun length h => by rw [ha] at h; cases h
  | some n =>
    by_cases hlimit : limit < n
    · exact .inr (.inl ⟨n, rfl, hlimit⟩)
    · by_cases hshort : s.length < headerLength + n
      · refine .inl fun length h => ?_
        rw [ha] at h
        cases h
        exact ⟨by omega, hshort⟩
      · obtain ⟨hlt, hheader⟩ := header_of_announced? ha
        have htaken : ((s.drop headerLength).take n).length = n := by
          rw [List.length_take, List.length_drop]
          omega
        refine .inr (.inr ⟨(s.drop headerLength).take n, _, (s.drop headerLength).drop n,
          encode_eq_ok_iff.2 ⟨by omega, by omega, rfl⟩, ?_⟩)
        rw [htaken, List.append_assoc, List.take_append_drop]
        exact hheader

/-- The bytes that a drained buffer leaves for later, or the refusal that ended it. -/
def Drained.outcome (d : Drained) : Except Error Bytes :=
  match d.refusal with
  | some e => .error e
  | none => .ok d.rest

/-- The frames that a byte string stands for, and what ends them: too few bytes for another frame, or
the header of one that is too large. -/
inductive Spells (limit : Nat) : Bytes → List Bytes → Except Error Bytes → Prop
  | incomplete {s : Bytes} (h : Incomplete limit s) : Spells limit s [] (.ok s)
  | tooLarge {s : Bytes} {length : Nat} (h : announced? s = some length) (hlimit : limit < length) :
    Spells limit s [] (.error (.tooLarge length limit))
  | frame {payload frame rest : Bytes} {frames : List Bytes} {ending : Except Error Bytes}
    (h : encode limit payload = .ok frame) (hrest : Spells limit rest frames ending) :
    Spells limit (frame ++ rest) (payload :: frames) ending

theorem drain_incomplete (h : Incomplete limit s) : drain limit s = ⟨[], none, s⟩ := by
  rw [drain]
  split <;> simp_all [decode_incomplete h]

theorem drain_tooLarge {length : Nat} (h : announced? s = some length) (hlimit : limit < length) :
    drain limit s = ⟨[], some (.tooLarge length limit), s⟩ := by
  rw [drain]
  split <;> simp_all [decode_tooLarge h hlimit]

theorem drain_encode (h : encode limit payload = .ok frame) (s : Bytes) :
    drain limit (frame ++ s) = { drain limit s with frames := payload :: (drain limit s).frames } := by
  rw [drain]
  split <;> simp_all [decode_encode h]

namespace Spells

theorem drained (h : Spells limit s frames ending) :
    (drain limit s).frames = frames ∧ (drain limit s).outcome = ending := by
  induction h with
  | incomplete h =>
    rw [drain_incomplete h]
    exact ⟨rfl, rfl⟩
  | tooLarge h hlimit =>
    rw [drain_tooLarge h hlimit]
    exact ⟨rfl, rfl⟩
  | frame h _ ih =>
    rw [drain_encode h]
    exact ⟨congrArg _ ih.1, ih.2⟩

theorem drain (limit : Nat) (s : Bytes) :
    Spells limit s (drain limit s).frames (drain limit s).outcome := by
  rcases buffer_cases limit s with h | ⟨length, h, hlimit⟩ | ⟨payload, frame, rest, h, hs⟩
  · rw [drain_incomplete h]
    exact .incomplete h
  · rw [drain_tooLarge h hlimit]
    exact .tooLarge h hlimit
  · have hshorter : rest.length < s.length := by
      obtain ⟨-, -, rfl⟩ := encode_eq_ok_iff.1 h
      simp [hs, headerLength]
      omega
    subst hs
    rw [drain_encode h]
    exact .frame h (Spells.drain limit rest)
termination_by s.length

theorem append {more : List Bytes} (h : Spells limit s frames (.ok rest))
    (hmore : Spells limit (rest ++ t) more ending) :
    Spells limit (s ++ t) (frames ++ more) ending := by
  generalize ho : Except.ok rest = ended at h
  induction h with
  | incomplete =>
    cases ho
    exact hmore
  | tooLarge => cases ho
  | frame h _ ih =>
    rw [List.append_assoc]
    exact .frame h (ih ho)

theorem refusal_append {e : Error} (h : Spells limit s frames (.error e)) (t : Bytes) :
    Spells limit (s ++ t) frames (.error e) := by
  generalize ho : Except.error e = ended at h ⊢
  induction h with
  | incomplete => cases ho
  | tooLarge h hlimit => exact .tooLarge (announced?_append h t) hlimit
  | frame h _ ih =>
    rw [List.append_assoc]
    exact .frame h (ih ho)

theorem unique {others : List Bytes} {other : Except Error Bytes} (h : Spells limit s frames ending)
    (hother : Spells limit s others other) : frames = others ∧ ending = other := by
  obtain ⟨hframes, hending⟩ := h.drained
  obtain ⟨hothers, hother⟩ := hother.drained
  exact ⟨hframes.symm.trans hothers, hending.symm.trans hother⟩

theorem of_append (h : Spells limit (s ++ t) frames (.ok rest)) : ∃ first more left,
    frames = first ++ more ∧ Spells limit s first (.ok left) ∧
      Spells limit (left ++ t) more (.ok rest) := by
  have hfirst := Spells.drain limit s
  cases hended : (Frame.drain limit s).outcome with
  | error e =>
    rw [hended] at hfirst
    cases (h.unique (hfirst.refusal_append t)).2
  | ok left =>
    rw [hended] at hfirst
    have hmore := Spells.drain limit (left ++ t)
    obtain ⟨hframes, hending⟩ := h.unique (hfirst.append hmore)
    rw [← hending] at hmore
    exact ⟨_, _, left, hframes, hfirst, hmore⟩

theorem concat (h : Spells limit s frames (.ok [])) (hframe : encode limit payload = .ok frame) :
    Spells limit (s ++ frame) (frames ++ [payload]) (.ok []) := by
  have hlast : Spells limit (frame ++ []) [payload] (.ok []) := .frame hframe (.incomplete nofun)
  rw [List.append_nil] at hlast
  exact h.append hlast

theorem within {other : Nat} (h : Spells limit s frames (.ok []))
    (hother : ∀ payload ∈ frames, payload.length ≤ other) : Spells other s frames (.ok []) := by
  generalize ho : Except.ok [] = ended at h ⊢
  induction h with
  | incomplete =>
    cases ho
    exact .incomplete nofun
  | tooLarge => cases ho
  | frame h _ ih =>
    obtain ⟨hfirst, hrest⟩ := List.forall_mem_cons.1 hother
    obtain ⟨-, hheader⟩ := encode_eq_ok_iff.1 h
    exact .frame (encode_eq_ok_iff.2 ⟨hfirst, hheader⟩) (ih hrest ho)

theorem eq_flatten (h : Spells limit s frames (.ok rest)) :
    ∃ written, frames.mapM (encode limit) = .ok written ∧ s = written.flatten ++ rest := by
  generalize ho : Except.ok rest = ended at h
  induction h with
  | incomplete =>
    cases ho
    exact ⟨[], rfl, rfl⟩
  | tooLarge => cases ho
  | @frame payload frame rest frames ending h _ ih =>
    obtain ⟨written, hw, hs⟩ := ih ho
    refine ⟨frame :: written, ?_, ?_⟩
    · rw [List.mapM_cons, h, hw]
      rfl
    · rw [List.flatten_cons, List.append_assoc, ← hs]

end Spells

/-- Draining finds the frames that a buffer stands for, and what ends them. -/
theorem spells_iff : Spells limit s frames ending ↔
    (drain limit s).frames = frames ∧ (drain limit s).outcome = ending := by
  constructor
  · exact Spells.drained
  · rintro ⟨rfl, rfl⟩
    exact Spells.drain limit s

/-- Takes a further chunk, unless a frame was refused. -/
def Drained.feed (limit : Nat) (d : Drained) (chunk : Bytes) : Drained :=
  match d.refusal with
  | some _ => d
  | none =>
    let more := drain limit (d.rest ++ chunk)
    { more with frames := d.frames ++ more.frames }

/-- What a stream yields that arrives in chunks. -/
def receive (limit : Nat) (chunks : List Bytes) : Drained :=
  chunks.foldl (Drained.feed limit) ⟨[], none, []⟩

theorem Spells.feed {d : Drained} (h : Spells limit s d.frames d.outcome) (chunk : Bytes) :
    Spells limit (s ++ chunk) (d.feed limit chunk).frames (d.feed limit chunk).outcome := by
  obtain ⟨frames, refusal, rest⟩ := d
  cases refusal with
  | some e => exact h.refusal_append chunk
  | none => exact h.append (.drain limit (rest ++ chunk))

/-- The frames of a stream are those of its bytes, however they arrive. -/
theorem receive_spells (limit : Nat) (chunks : List Bytes) :
    Spells limit chunks.flatten (receive limit chunks).frames (receive limit chunks).outcome := by
  have hfold (chunks : List Bytes) : ∀ (s : Bytes) (d : Drained),
      Spells limit s d.frames d.outcome →
      Spells limit (s ++ chunks.flatten) (chunks.foldl (Drained.feed limit) d).frames
        (chunks.foldl (Drained.feed limit) d).outcome := by
    induction chunks with
    | nil =>
      intro s d h
      rw [List.flatten_nil, List.append_nil]
      exact h
    | cons chunk chunks ih =>
      intro s d h
      rw [List.flatten_cons, ← List.append_assoc]
      exact ih _ _ (h.feed chunk)
  exact hfold chunks [] ⟨[], none, []⟩ (.incomplete nofun)

/-- Two ways of cutting a byte string into chunks give the same frames, and the same refusal or the
same rest. Without a refusal the string is what is written for the frames, and the rest. -/
theorem receive_eq_of_flatten_eq (limit : Nat) {s : Bytes} {chunks others : List Bytes}
    (h : chunks.flatten = s) (hothers : others.flatten = s) :
    (receive limit chunks).frames = (receive limit others).frames ∧
    (receive limit chunks).outcome = (receive limit others).outcome ∧
    Spells limit s (receive limit chunks).frames (receive limit chunks).outcome ∧
    ∀ rest, (receive limit chunks).outcome = .ok rest → ∃ written,
      (receive limit chunks).frames.mapM (encode limit) = .ok written ∧
      s = written.flatten ++ rest := by
  have hspells := receive_spells limit chunks
  rw [h] at hspells
  have hdrained := hspells.drained
  have hother := receive_spells limit others
  rw [hothers] at hother
  obtain ⟨hframes, houtcome⟩ := hother.drained
  refine ⟨hdrained.1.symm.trans hframes, hdrained.2.symm.trans houtcome, hspells, ?_⟩
  intro rest hrest
  rw [hrest] at hspells
  exact hspells.eq_flatten

/-- The cuts fall inside a header, nowhere, and inside the header of a frame that is refused. -/
theorem receive_eq_of_flatten_eq_uneven_cuts :
    [[0, 0], [], [0, 1, 7, 0, 0], [0, 9], [5]].flatten =
      ([0, 0, 0, 1, 7, 0, 0, 0, 9, 5] : Bytes) ∧
    (receive 3 [[0, 0, 0, 1, 7, 0, 0, 0, 9, 5]]).frames = [[7]] ∧
    (receive 3 [[0, 0], [], [0, 1, 7, 0, 0], [0, 9], [5]]).frames = [[7]] ∧
    (receive 3 [[0, 0], [], [0, 1, 7, 0, 0], [0, 9], [5]]).outcome = .error (.tooLarge 9 3) := by
  have hwhole : receive 3 [[0, 0, 0, 1, 7, 0, 0, 0, 9, 5]] =
      ⟨[[7]], some (.tooLarge 9 3), [0, 0, 0, 9, 5]⟩ := by decide +kernel
  have hcut : [[0, 0], [], [0, 1, 7, 0, 0], [0, 9], [5]].flatten =
      ([0, 0, 0, 1, 7, 0, 0, 0, 9, 5] : Bytes) := rfl
  have huncut : [[0, 0, 0, 1, 7, 0, 0, 0, 9, 5]].flatten =
      ([0, 0, 0, 1, 7, 0, 0, 0, 9, 5] : Bytes) := rfl
  obtain ⟨hframes, houtcome, -, -⟩ := receive_eq_of_flatten_eq 3 hcut huncut
  rw [hwhole] at hframes houtcome
  exact ⟨hcut, by rw [hwhole], hframes, houtcome⟩

end Relay.Frame
