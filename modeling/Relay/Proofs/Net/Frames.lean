import Relay.Net.Connection
import Relay.Proofs.Wire.Streaming

namespace Relay

variable {σ : Type} {sink : Sink σ} {limit : Nat} {c : Connection σ} {s : σ}
  {payload frame rest : Frame.Bytes} {frames more : List Frame.Bytes} {ending : Except Frame.Error Frame.Bytes}

/-- A sink after frames, of which it is given no further ones once it wants no more, and whether it still
does. -/
def Sink.takeAll (sink : Sink σ) : List Frame.Bytes → σ → σ × Bool
  | [], s => (s, true)
  | frame :: frames, s =>
    match sink frame s with
    | (s, true) => takeAll sink frames s
    | (s, false) => (s, false)

namespace Connection

theorem drain_incomplete (h : Frame.Incomplete limit c.buffer) : c.drain limit sink = c := by
  have hdecoded := Frame.decode_incomplete h
  rw [drain]
  split
  · rename_i heq
    rw [hdecoded] at heq
    cases heq
  · rename_i heq
    rw [hdecoded] at heq
    cases heq
    rfl
  · rename_i heq
    rw [hdecoded] at heq
    cases heq

theorem drain_tooLarge {length : Nat} (h : Frame.announced? c.buffer = some length)
    (hlimit : limit < length) : c.drain limit sink = { c with isOpen := false } := by
  have hdecoded := Frame.decode_tooLarge h hlimit
  rw [drain]
  split
  · rename_i heq
    rw [hdecoded] at heq
    cases heq
  · rename_i heq
    rw [hdecoded] at heq
    cases heq
  · rename_i heq
    rw [hdecoded] at heq
    cases heq
    rfl

theorem drain_encode (h : Frame.encode limit payload = .ok frame) (hb : c.buffer = frame ++ rest) :
    c.drain limit sink = match sink payload c.sink with
      | (s, true) => drain limit sink ⟨rest, c.delivered + 1, s, c.isOpen⟩
      | (s, false) => ⟨rest, c.delivered + 1, s, false⟩ := by
  have hdecoded := Frame.decode_encode h rest
  rw [← hb] at hdecoded
  rw [drain]
  split
  · rename_i heq
    rw [hdecoded] at heq
    cases heq
    generalize sink payload c.sink = answer
    obtain ⟨s, more⟩ := answer
    cases more <;> rfl
  · rename_i heq
    rw [hdecoded] at heq
    cases heq
  · rename_i heq
    rw [hdecoded] at heq
    cases heq

/-- A connection gives the frames of its buffer to the sink. It stays open as long as the sink wants all
of them and none is refused, and then keeps the bytes of the next one. -/
theorem drain_spells (sink : Sink σ) (h : Frame.Spells limit c.buffer frames ending) :
    (c.drain limit sink).sink = (sink.takeAll frames c.sink).1 ∧
    (c.drain limit sink).isOpen = (c.isOpen && (sink.takeAll frames c.sink).2 && ending.isOk) ∧
    ((sink.takeAll frames c.sink).2 = true → ∀ rest, ending = .ok rest →
      (c.drain limit sink).buffer = rest) := by
  generalize hb : c.buffer = buffer at h
  induction h generalizing c with
  | incomplete h =>
    subst hb
    rw [drain_incomplete h]
    refine ⟨rfl, (Bool.and_true _).symm.trans (congrArg (· && true) (Bool.and_true _).symm), ?_⟩
    rintro - rest ⟨⟩
    rfl
  | tooLarge h hlimit =>
    subst hb
    rw [drain_tooLarge h hlimit]
    exact ⟨rfl, (Bool.and_false _).symm, nofun⟩
  | @frame payload frame rest frames ending h _ ih =>
    rw [drain_encode h hb, Sink.takeAll]
    cases sink payload c.sink with
    | mk s more =>
      cases more with
      | true => exact ih (c := ⟨rest, c.delivered + 1, s, c.isOpen⟩) rfl
      | false =>
        refine ⟨rfl, ?_, nofun⟩
        rw [Bool.and_false, Bool.false_and]

end Connection

end Relay
