import Relay.Net.Isolated
import Relay.Proofs.Net.Attaching
import Relay.Proofs.Wire.Framing

namespace Relay

open Ledger (Fate Yields host)

variable {k : Message.Kind}

/-- The payload is longer than any frame on the stream of an endpoint. -/
def Endpoint.outgrows (e : Endpoint) (payload : Frame.Bytes) : Prop :=
  e.address.protocol = .tcp ∧ min e.transport.maxFrameLen Frame.greatestLength < payload.length

theorem Endpoint.encode_cases {e : Endpoint} (hfits : e.socket.Fits e.address) (hclient : e.isServer = false)
    (payload : Frame.Bytes) :
    (e.outgrows payload ∧ e.encode payload = .error (.notEncoded
      (.tooLarge payload.length (min e.transport.maxFrameLen Frame.greatestLength)))) ∨
    (¬e.outgrows payload ∧ ∃ wire, e.encode payload = .ok wire) := by
  unfold Endpoint.encode
  obtain ⟨hsocket, hinside⟩ | ⟨id, hsocket, htcp⟩ | ⟨id, peer, hsocket, hdatagram⟩ :=
    hfits.of_client hclient
  · right
    rw [hsocket, hclient]
    have hshort : ¬e.outgrows payload := by simp [outgrows, hinside]
    exact ⟨hshort, [], rfl⟩
  · rw [hsocket]
    cases hframe : Frame.encode e.transport.maxFrameLen payload with
    | ok wire =>
      right
      have hshort : ¬e.outgrows payload := by
        rintro ⟨-, hlong⟩
        rw [Frame.encode_eq_error_iff.2 ⟨hlong, rfl⟩] at hframe
        cases hframe
      exact ⟨hshort, wire, rfl⟩
    | error cause =>
      obtain ⟨hlong, rfl⟩ := Frame.encode_eq_error_iff.1 hframe
      exact .inl ⟨⟨htcp, hlong⟩, rfl⟩
  · right
    rw [hsocket]
    have hshort : ¬e.outgrows payload := by
      rintro ⟨htcp, -⟩
      rw [htcp] at hdatagram
      cases hdatagram
    exact ⟨hshort, payload, rfl⟩

namespace Distributed

variable {d : Distributed k} {e : Endpoint} {value : k.Value} {wire : Frame.Bytes}

/-- The client through which values leave the process. -/
def remote? (d : Distributed k) : Option Endpoint :=
  d.endpoint.filter fun e => !e.isServer && e.address.protocol != .inproc

theorem remote?_of_client (hattached : d.endpoint = some e) (hclient : e.isServer = false) :
    d.remote? = if e.address.protocol = .inproc then none else some e := by
  rw [remote?, hattached, Option.filter_some, hclient]
  by_cases hinside : e.address.protocol = .inproc
  · simp [hinside]
  · simp [hinside]

theorem outbound_none (h : d.outbound value = .ok none) : d.remote? = none := by
  unfold outbound at h
  split at h
  · rename_i hnone
    rw [remote?, Option.filter_eq_none_iff]
    intro e he hremote
    exact Option.filter_eq_none_iff.1 hnone e he (Bool.and_eq_true_iff.1 hremote).1
  · split at h <;> cases h

theorem outbound_some (h : d.outbound value = .ok (some (e, wire))) :
    d.endpoint = some e ∧ e.isServer = false ∧ e.encode (k.encode value) = .ok wire := by
  unfold outbound at h
  split at h
  · cases h
  · rename_i client hclient
    obtain ⟨hattached, hdials⟩ := Option.filter_eq_some_iff.1 hclient
    split at h
    · rename_i hencode
      cases h
      exact ⟨hattached, by simpa using hdials, hencode⟩
    · cases h

theorem outbound_error {error : SendError} (h : d.outbound value = .error error) :
    ∃ e cause, d.endpoint = some e ∧ e.isServer = false ∧ e.encode (k.encode value) = .error cause ∧
      error = .notEncoded cause := by
  unfold outbound at h
  split at h
  · cases h
  · rename_i client hclient
    obtain ⟨hattached, hdials⟩ := Option.filter_eq_some_iff.1 hclient
    split at h
    · cases h
    · rename_i cause hencode
      cases h
      exact ⟨client, cause, hattached, by simpa using hdials, hencode, rfl⟩

theorem outbound_error_of_fits (hfits : ∀ e, d.endpoint = some e → e.socket.Fits e.address)
    {error : SendError} (h : d.outbound value = .error error) :
    ∃ cause, error = .notEncoded (.notEncoded cause) := by
  obtain ⟨e, cause, hattached, hclient, hencode, rfl⟩ := outbound_error h
  obtain ⟨-, hlong⟩ | ⟨-, wire, hshort⟩ := e.encode_cases (hfits e hattached) hclient (k.encode value)
  · rw [hlong] at hencode
    cases hencode
    exact ⟨_, rfl⟩
  · rw [hshort] at hencode
    cases hencode

theorem outbound_of_client (hattached : d.endpoint = some e) (hclient : e.isServer = false) :
    d.outbound value =
      ((e.encode (k.encode value)).map fun wire => some (e, wire)).mapError .notEncoded := by
  have hfilter : d.endpoint.filter (!·.isServer) = some e := by
    rw [hattached, Option.filter_some, hclient]
    rfl
  unfold outbound
  rw [hfilter]
  cases hencode : e.encode (k.encode value) with
  | ok wire =>
    simp only [hencode]
    rfl
  | error cause =>
    simp only [hencode]
    rfl

variable {fates : Nat → Fate} {w : Ledger}
  {enqueue : k.Value → Channel k.Value → Except Channel.Error Unit × Channel k.Value}

theorem send_of_outbound_error {m : Type → Type} [Monad m] (host : Host m) {error : SendError}
    (h : d.outbound value = .error error) : d.send host enqueue value = pure (.error error, d) := by
  unfold send
  rw [h]

/-- A value that is not rejected goes to the channel, whatever becomes of it there and afterwards. -/
theorem yields_send_of_outbound {out : Option (Endpoint × Frame.Bytes)} (h : d.outbound value = .ok out) :
    Yields (d.send (host fates) enqueue value) w fun r _ =>
      (¬∃ cause, r.1 = .error (.notEncoded cause)) ∧
        r.2 = { d with channel := (enqueue value d.channel).2 } := by
  unfold send
  rw [h]
  obtain ⟨result, channel⟩ := enqueue value d.channel
  have hlater (error : SendError) (hkind : ∀ cause, error ≠ .notEncoded cause) :
      ¬∃ cause, (.error error : Except SendError Unit) = .error (.notEncoded cause) := by
    rintro ⟨cause, hrejected⟩
    exact hkind cause (Except.error.inj hrejected)
  have hdone : ¬∃ cause, (.ok () : Except SendError Unit) = .error (.notEncoded cause) := by
    rintro ⟨_, ⟨⟩⟩
  cases result with
  | error cause => exact .pure ⟨hlater _ fun _ => SendError.noConfusion, rfl⟩
  | ok =>
    cases out with
    | none => exact .pure ⟨hdone, rfl⟩
    | some out =>
      have htransmitted : Yields (out.1.transmit (host fates) out.2) w fun _ _ => True :=
        ⟨fun _ _ _ => trivial⟩
      apply htransmitted.bind
      intro r v _
      cases r with
      | error cause => exact .pure ⟨hlater _ fun _ => SendError.noConfusion, rfl⟩
      | ok => exact .pure ⟨hdone, rfl⟩

theorem transmit_long_datagram {id : Nat} {peer : SocketAddress} (hsocket : e.socket = .datagram id peer)
    (hlong : Isolated.datagramLimit < wire.length) (s : Isolated) : ∃ t,
    (e.transmit Isolated.host wire).run s = (.error (.notSent e.address .messageTooLong), t) := by
  unfold Endpoint.transmit
  rw [hsocket]
  simp only [Isolated.host, if_pos hlong]
  exact ⟨_, rfl⟩

/-- Once the machine has refused a datagram that is too long for it, the value is in the channel. -/
theorem send_long_datagram {id : Nat} {peer : SocketAddress} {channel : Channel k.Value}
    (hattached : d.endpoint = some e) (hclient : e.isServer = false) (hsocket : e.socket = .datagram id peer)
    (hlong : Isolated.datagramLimit < (k.encode value).length)
    (henqueue : enqueue value d.channel = (.ok (), channel)) (s : Isolated) :
    ((d.send Isolated.host enqueue value).run s).1 =
      (.error (.notTransmitted (.notSent e.address .messageTooLong)), { d with channel }) := by
  have hout : d.outbound value = .ok (some (e, k.encode value)) := by
    rw [outbound_of_client hattached hclient, Endpoint.encode, hsocket]
    rfl
  obtain ⟨t, htransmit⟩ := transmit_long_datagram hsocket hlong s
  unfold send
  rw [hout, henqueue]
  simp only [StateT.run_bind, htransmit]
  rfl

end Distributed

namespace Station

/-- A client rejects a value if and only if it is a stream's and no frame can hold the value; then nothing is
asked of the machine, and the channel is as it was. Any other value goes to the channel, a datagram's whatever
its length. -/
theorem rejects_iff_outgrows {fates : Nat → Fate} {s : Station k} {e : Endpoint} {value : k.Value}
    {enqueue : k.Value → Channel k.Value → Except Channel.Error Unit × Channel k.Value} {w v : Ledger}
    {result : Except Distributed.SendError Unit} {line : Distributed k} (hs : Reachable fates s)
    (hattached : s.line.endpoint = some e) (hclient : e.isServer = false)
    (h : (s.line.send (host fates) enqueue value).run w = some ((result, line), v)) :
    ((∃ cause, result = .error (.notEncoded cause)) ↔ e.outgrows (k.encode value)) ∧
    (e.outgrows (k.encode value) → line = s.line ∧ v = w) ∧
    (¬e.outgrows (k.encode value) →
      line = { s.line with channel := (enqueue value s.line.channel).2 }) := by
  obtain ⟨hlong, hencode⟩ | ⟨hshort, wire, hencode⟩ :=
    Endpoint.encode_cases (hs.fits hattached) hclient (k.encode value)
  · have hrejected : s.line.outbound value = .error (.notEncoded (.notEncoded (.tooLarge
        (k.encode value).length (min e.transport.maxFrameLen Frame.greatestLength)))) := by
      rw [Distributed.outbound_of_client hattached hclient, hencode]
      rfl
    rw [Distributed.send_of_outbound_error _ hrejected] at h
    cases h
    exact ⟨iff_of_true ⟨_, rfl⟩ hlong, fun _ => ⟨rfl, rfl⟩, fun hshort => (hshort hlong).elim⟩
  · cases hout : s.line.outbound value with
    | error error =>
      obtain ⟨e', cause, hattached', -, hrefused, -⟩ := Distributed.outbound_error hout
      rw [hattached] at hattached'
      cases hattached'
      rw [hencode] at hrefused
      cases hrefused
    | ok out =>
      obtain ⟨hnever, hline⟩ := (Distributed.yields_send_of_outbound hout).returns _ _ h
      exact ⟨iff_of_false hnever hshort, fun hlong => (hshort hlong).elim, fun _ => hline⟩

/-- Frames of one byte at most cannot hold two. -/
theorem rejects_iff_outgrows_two_bytes : ∃ (fates : Nat → Fate) (s : Station .raw) (e : Endpoint),
    Reachable fates s ∧ s.line.endpoint = some e ∧ e.isServer = false ∧ e.outgrows [7, 8] ∧
    ∃ result line v, (s.line.send (host fates) (fun value c => c.trySend value) [7, 8]).run s.machine =
      some ((result, line), v) ∧ (∃ cause, result = .error (.notEncoded cause)) ∧ line = s.line := by
  let fates (_ : Nat) : Fate := ⟨none, .ok [.v4 ⟨127, 0, 0, 1⟩ 9], none, []⟩
  let transport : Transport := { Transport.standard with maxFrameLen := 1 }
  let e : Endpoint := ⟨⟨.tcp, "127.0.0.1", some 9, false⟩, transport, .allowAll, .stream 0, false⟩
  let bare : Distributed .raw := .ofChannel ⟨1, .plain, [], false⟩ .allowAll transport
  let s : Station .raw := ⟨{ bare with endpoint := some e }, [], ⟨4, 1, [0], [], []⟩⟩
  have hattach : (bare.attach (host fates) "tcp://127.0.0.1:9").run .initial =
      some ((.ok (), s.line), s.machine) := rfl
  have hs : Reachable fates s :=
    (Reachable.start ⟨1, .plain, [], false⟩ .allowAll transport).step (.attach hattach)
  have hlong : e.outgrows [7, 8] := ⟨rfl, by decide⟩
  have hsend : (s.line.send (host fates) (fun value c => c.trySend value) [7, 8]).run s.machine =
      some ((.error (.notEncoded (.notEncoded (.tooLarge 2 1))), s.line), s.machine) := rfl
  obtain ⟨hrejects, hunchanged, -⟩ := rejects_iff_outgrows hs rfl rfl hsend
  exact ⟨fates, s, e, hs, rfl, rfl, hlong, _, _, _, hsend, hrejects.2 hlong, (hunchanged hlong).1⟩

/-- A datagram that no machine can send is in the channel when it is refused. -/
theorem long_datagram_enqueued : ∃ (line : Distributed .bytes) (e : Endpoint) (machine : Isolated),
    (Distributed.create Isolated.host .bytes 2 .plain (some "udp://127.0.0.1:9")).run .initial =
      (.ok line, machine) ∧ line.endpoint = some e ∧ e.isServer = false ∧ e.address.protocol = .udp ∧
    65507 < (Message.Kind.encode .bytes (List.replicate 70000 0xab)).length ∧
    ((line.send Isolated.host (fun value c => c.trySend value) (List.replicate 70000 0xab)).run machine).1 =
      (.error (.notTransmitted (.notSent e.address .messageTooLong)),
        { line with channel := line.channel.push (List.replicate 70000 0xab) }) := by
  let e : Endpoint := ⟨⟨.udp, "127.0.0.1", some 9, false⟩, .standard, .allowAll,
    .datagram 0 (.v4 ⟨127, 0, 0, 1⟩ 9), false⟩
  let line : Distributed .bytes := ⟨⟨2, .plain, [], false⟩, some e, .allowAll, .standard⟩
  let machine : Isolated := ⟨[⟨0, .unbound true, false, false⟩], 1, []⟩
  have hlength : (Message.Kind.encode .bytes (List.replicate 70000 0xab)).length = 70000 :=
    List.length_replicate
  refine ⟨line, e, machine, rfl, rfl, rfl, rfl, ?_, ?_⟩
  · rw [hlength]
    decide
  · have hlong : Isolated.datagramLimit < (Message.Kind.encode .bytes (List.replicate 70000 0xab)).length := by
      rw [hlength]
      decide
    exact Distributed.send_long_datagram (d := line) rfl rfl rfl hlong rfl machine

end Station

end Relay
