import Relay.Net.Distributed
import Relay.Proofs.Channel.Fifo
import Relay.Proofs.Wire.Streaming

namespace Relay

/-- A machine on which what is written to a socket always leaves, behind what was written before. -/
structure Host.Carries {σ : Type} (host : Host (StateM σ)) (socket : Nat) (stream : σ → Frame.Bytes) :
    Prop where
  write : ∀ (wire : Frame.Bytes) (s : σ), ∃ next : σ,
    (host.write socket wire).run s = (.ok (), next) ∧ stream next = stream s ++ wire
  countSent : ∀ (protocol : String) (s : σ), stream ((host.countSent protocol).run s).2 = stream s

theorem Endpoint.transmit_carries {σ : Type} {host : Host (StateM σ)} {socket : Nat}
    {stream : σ → Frame.Bytes} (h : host.Carries socket stream) {e : Endpoint}
    (hsocket : e.socket = .stream socket) (wire : Frame.Bytes) (s : σ) : ∃ next : σ,
    (e.transmit host wire).run s = (.ok (), next) ∧ stream next = stream s ++ wire := by
  obtain ⟨written, hwrite, hstream⟩ := h.write wire s
  refine ⟨((host.countSent e.address.protocol.scheme).run written).2, ?_, ?_⟩
  · unfold transmit
    rw [hsocket]
    simp only [StateT.run_bind, hwrite]
    rfl
  · rw [h.countSent, hstream]

namespace Net

open Channel (Recorded callsOf callsOf_succ)
open Distributed (SendError)

/-- Where a call stands: it puts its value into the client's channel first, it is about to write, or it has
ended. -/
inductive Uplink.Phase where
  | enqueuing (out : Option (Endpoint × Frame.Bytes))
  | writing (endpoint : Endpoint) (wire : Frame.Bytes)
  | finished (result : Except SendError Unit)

namespace Uplink.Phase

variable {m : Type → Type} [Monad m] {k : Message.Kind}

def hasEnded : Phase → Bool
  | .finished _ => true
  | _ => false

/-- A call that sends a value into the channel and to the peer begins. -/
def ofSend (d : Distributed k) (value : k.Value) : Phase :=
  match d.outbound value with
  | .ok out => .enqueuing out
  | .error e => .finished (.error e)

/-- A call that sends a value to the peer only begins. -/
def ofSendToEndpoint (d : Distributed k) (value : k.Value) : Phase :=
  match d.endpoint with
  | none => .finished (.error (.notTransmitted .none))
  | some endpoint =>
    match endpoint.encode (k.encode value) with
    | .ok wire => .writing endpoint wire
    | .error e => .finished (.error (.notEncoded e))

def enqueued (result : Except Channel.Error Unit) : Phase → Phase
  | .enqueuing out =>
    match result, out with
    | .error e, _ => .finished (.error (.notEnqueued e))
    | .ok (), none => .finished (.ok ())
    | .ok (), some (endpoint, wire) => .writing endpoint wire
  | phase => phase

/-- A call that need not wait for the channel: `enqueue` answers it at once, if it asks. -/
def ask (enqueue : Channel k.Value → Except Channel.Error Unit × Channel k.Value)
    (channel : Channel k.Value) : Phase → Phase × Channel k.Value
  | .enqueuing out =>
    let (result, channel) := enqueue channel
    (enqueued result (.enqueuing out), channel)
  | phase => (phase, channel)

/-- What a call still does by itself; while it waits for the channel, that is nothing. -/
def conclude (host : Host m) : Phase → m (Except SendError Unit)
  | .writing endpoint wire => (·.mapError .notTransmitted) <$> endpoint.transmit host wire
  | .finished result => pure result
  | .enqueuing _ => pure (.ok ())

variable [LawfulMonad m]

theorem send_eq (host : Host m) (d : Distributed k) (value : k.Value)
    (enqueue : k.Value → Channel k.Value → Except Channel.Error Unit × Channel k.Value) :
    d.send host enqueue value = (do
      let asked := (ofSend d value).ask (enqueue value) d.channel
      return (← asked.1.conclude host, { d with channel := asked.2 })) := by
  unfold Distributed.send ofSend
  cases d.outbound value with
  | error e => simp only [ask, conclude, pure_bind]
  | ok out =>
    simp only [ask]
    obtain ⟨result, channel⟩ := enqueue value d.channel
    cases result with
    | error e => simp only [enqueued, conclude, pure_bind]
    | ok =>
      cases out with
      | none => simp only [enqueued, conclude, pure_bind]
      | some out =>
        simp only [enqueued, conclude, bind_map_left]
        apply bind_congr
        intro result
        cases result with
        | ok => rfl
        | error e => rfl

end Uplink.Phase

structure Uplink.Call (k : Message.Kind) where
  value : k.Value
  phase : Uplink.Phase

/-- The calls on a client in the order in which they began, the machine, and the values that were written
with the calls that wrote them, earliest first. -/
structure Uplink (k : Message.Kind) (σ : Type) where
  calls : List (Uplink.Call k)
  machine : σ
  written : List (Nat × k.Value)

inductive Uplink.Event (k : Message.Kind) where
  | send (value : k.Value)
  | sendToEndpoint (value : k.Value)
  | enqueue (call : Nat) (result : Except Channel.Error Unit)
  | write (call : Nat)

/-- A client that sends over a stream on which nothing is lost. -/
structure Client (k : Message.Kind) (σ : Type) where
  line : Distributed k
  endpoint : Endpoint
  socket : Nat
  host : Host (StateM σ)
  stream : σ → Frame.Bytes
  attached : line.endpoint = some endpoint
  dials : endpoint.isServer = false
  connected : endpoint.socket = .stream socket
  carries : host.Carries socket stream

def Client.frame {k : Message.Kind} {σ : Type} (client : Client k σ) (value : k.Value) :
    Except Frame.Error Frame.Bytes :=
  Frame.encode client.endpoint.transport.maxFrameLen (k.encode value)

namespace Uplink

variable {k : Message.Kind} {σ : Type}

def idle (machine : σ) : Uplink k σ := ⟨[], machine, []⟩

def hasEnded (u : Uplink k σ) (i : Nat) : Bool := u.calls[i]?.any (·.phase.hasEnded)

def begin (u : Uplink k σ) (value : k.Value) (phase : Phase) : Uplink k σ :=
  { u with calls := u.calls ++ [⟨value, phase⟩] }

def setPhase (u : Uplink k σ) (i : Nat) (phase : Phase) : Uplink k σ :=
  { u with calls := u.calls.modify i fun call => { call with phase } }

/-- The uplink after an event; none when it cannot happen. The channel may answer at any time, and calls
that wait for their turn may have it in any order. -/
def step (client : Client k σ) (u : Uplink k σ) : Event k → Option (Uplink k σ)
  | .send value => some (u.begin value (.ofSend client.line value))
  | .sendToEndpoint value => some (u.begin value (.ofSendToEndpoint client.line value))
  | .enqueue i result =>
    match u.calls[i]? with
    | some ⟨_, .enqueuing out⟩ => some (u.setPhase i (Phase.enqueued result (.enqueuing out)))
    | _ => none
  | .write i =>
    match u.calls[i]? with
    | some ⟨value, .writing endpoint wire⟩ =>
      let (result, machine) := (Phase.conclude client.host (.writing endpoint wire)).run u.machine
      let written := if result.isOk then [(i, value)] else []
      some { u.setPhase i (.finished result) with machine, written := u.written ++ written }
    | _ => none

/-- A thread begins a call when all those it began before have ended. -/
def Permits (owner : Nat → Nat) (u : Uplink k σ) : Event k → Prop
  | .send _ | .sendToEndpoint _ => ∀ i, i < u.calls.length → owner i = owner u.calls.length →
    u.hasEnded i = true
  | _ => True

/-- What a call wrote, given how it ended. -/
def sent (i : Nat) : Option (Call k) → List (Nat × k.Value)
  | some ⟨value, .finished (.ok ())⟩ => [(i, value)]
  | _ => []

def values (u : Uplink k σ) : List k.Value := u.written.map Prod.snd

/-- What is known of a call: it carries the frame of its value until that is written, unless the channel
refuses the value or it has no frame. -/
inductive Stands (client : Client k σ) (value : k.Value) : Phase → Prop
  | enqueuing {wire : Frame.Bytes} (h : client.frame value = .ok wire) :
      Stands client value (.enqueuing (some (client.endpoint, wire)))
  | writing {wire : Frame.Bytes} (h : client.frame value = .ok wire) :
      Stands client value (.writing client.endpoint wire)
  | notEnqueued (cause : Channel.Error) : Stands client value (.finished (.error (.notEnqueued cause)))
  | notEncoded {cause : Frame.Error} (h : client.frame value = .error cause) :
      Stands client value (.finished (.error (.notEncoded (.notEncoded cause))))
  | sent : Stands client value (.finished (.ok ()))

variable {client : Client k σ} {owner : Nat → Nat} {u next : Uplink k σ} {i j : Nat} {value : k.Value}
  {phase old : Phase}

theorem encode_eq (client : Client k σ) (value : k.Value) :
    client.endpoint.encode (k.encode value) = (client.frame value).mapError .notEncoded := by
  rw [Endpoint.encode, client.connected]
  rfl

theorem ofSend_cases (client : Client k σ) (value : k.Value) :
    (∃ wire, client.frame value = .ok wire ∧
      Phase.ofSend client.line value = .enqueuing (some (client.endpoint, wire)) ∧
      Phase.ofSendToEndpoint client.line value = .writing client.endpoint wire) ∨
    ∃ cause, client.frame value = .error cause ∧
      Phase.ofSend client.line value = .finished (.error (.notEncoded (.notEncoded cause))) ∧
      Phase.ofSendToEndpoint client.line value =
        .finished (.error (.notEncoded (.notEncoded cause))) := by
  have hfilter : client.line.endpoint.filter (!·.isServer) = some client.endpoint := by
    rw [client.attached, Option.filter_some, client.dials]
    rfl
  unfold Phase.ofSend Phase.ofSendToEndpoint Distributed.outbound
  rw [hfilter, client.attached]
  simp only [encode_eq]
  cases client.frame value with
  | ok wire => exact .inl ⟨wire, rfl, rfl, rfl⟩
  | error cause => exact .inr ⟨cause, rfl, rfl, rfl⟩

theorem hasEnded_begin (hj : j < u.calls.length) :
    (u.begin value phase).hasEnded j = u.hasEnded j := by
  rw [hasEnded, hasEnded, begin, List.getElem?_append_left hj]

theorem hasEnded_setPhase_of_ne (hij : i ≠ j) : (u.setPhase i phase).hasEnded j = u.hasEnded j := by
  rw [hasEnded, hasEnded, setPhase, List.getElem?_modify_ne _ _ hij]

theorem sent_eq_nil (hphase : phase ≠ .finished (.ok ())) : sent i (some ⟨value, phase⟩) = [] := by
  unfold sent
  split
  · rename_i heq
    cases heq
    exact (hphase rfl).elim
  · rfl

theorem sent_begin (hphase : phase ≠ .finished (.ok ())) :
    (fun j => sent j (u.begin value phase).calls[j]?) = fun j => sent j u.calls[j]? := by
  funext j
  rcases Nat.lt_or_ge j u.calls.length with hlt | hge
  · rw [begin, List.getElem?_append_left hlt]
  · rw [begin, List.getElem?_append_right hge, List.getElem?_eq_none hge, List.getElem?_singleton]
    split
    · exact sent_eq_nil hphase
    · rfl

theorem sent_setPhase (hi : u.calls[i]? = some ⟨value, old⟩) :
    (fun j => sent j (u.setPhase i phase).calls[j]?) =
      Function.update (fun j => sent j u.calls[j]?) i (sent i (some ⟨value, phase⟩)) := by
  funext j
  by_cases hij : i = j
  · subst hij
    rw [Function.update_self, setPhase, List.getElem?_modify_eq, hi]
    rfl
  · rw [Function.update_of_ne (Ne.symm hij), setPhase, List.getElem?_modify_ne _ _ hij]

theorem sent_fst {call : Option (Call k)} : ∀ e ∈ sent i call, e.1 = i := by
  intro e he
  unfold sent at he
  split at he
  · rw [List.mem_singleton.1 he]
  · cases he

structure Orderly (client : Client k σ) (owner : Nat → Nat) (u : Uplink k σ) : Prop where
  stands : ∀ call ∈ u.calls, Stands client call.value call.phase
  sequential : ∀ i j, i < j → j < u.calls.length → owner i = owner j → u.hasEnded i = true
  recorded : Recorded owner u.calls.length (fun i => sent i u.calls[i]?) u.written
  spelled : Frame.Spells client.endpoint.transport.maxFrameLen (client.stream u.machine)
    (u.values.map k.encode) (.ok [])

theorem Orderly.idle {machine : σ} (h : client.stream machine = []) :
    Orderly client owner (idle machine) where
  stands _ hcall := (List.not_mem_nil hcall).elim
  sequential i j _ hj := (Nat.not_lt_zero j hj).elim
  recorded _ := rfl
  spelled := by
    rw [Uplink.idle, h]
    exact .incomplete nofun

theorem Orderly.begin (h : Orderly client owner u)
    (hp : ∀ i, i < u.calls.length → owner i = owner u.calls.length → u.hasEnded i = true)
    (hstands : Stands client value phase) (hphase : phase ≠ .finished (.ok ())) :
    Orderly client owner (u.begin value phase) where
  stands := by
    intro call hcall
    rcases List.mem_append.1 hcall with hold | hnew
    · exact h.stands call hold
    · rw [List.mem_singleton.1 hnew]
      exact hstands
  sequential := by
    intro i j hij hj howner
    have hlength : (u.begin value phase).calls.length = u.calls.length + 1 := List.length_append
    rw [hlength] at hj
    have hi : i < u.calls.length := Nat.lt_of_lt_of_le hij (Nat.le_of_lt_succ hj)
    rw [hasEnded_begin hi]
    rcases Nat.lt_succ_iff_lt_or_eq.1 hj with hlt | rfl
    · exact h.sequential i j hij hlt howner
    · exact hp i hi howner
  recorded := by
    have hlength : (u.begin value phase).calls.length = u.calls.length + 1 := List.length_append
    rw [hlength, sent_begin hphase]
    apply h.recorded.arrive
    simp only [List.getElem?_eq_none (Nat.le_refl _), sent]
  spelled := h.spelled

section Pending

variable (h : Orderly client owner u) (hi : u.calls[i]? = some ⟨value, old⟩)
  (hold : old.hasEnded = false)

include h hi hold

/-- Nothing was written by a call that has not ended, and its thread has made no later one. -/
theorem Orderly.pending : i < u.calls.length ∧ sent i u.calls[i]? = [] ∧
    ∀ j, i < j → j < u.calls.length → owner i ≠ owner j := by
  refine ⟨(List.getElem?_eq_some_iff.1 hi).1, ?_, ?_⟩
  · rw [hi]
    apply sent_eq_nil
    rintro rfl
    cases hold
  · intro j hij hj howner
    have hended := h.sequential i j hij hj howner
    rw [hasEnded, hi, Option.any_some, hold] at hended
    cases hended

theorem Orderly.sequential_setPhase (phase : Phase) : ∀ k j, k < j →
    j < (u.setPhase i phase).calls.length → owner k = owner j →
      (u.setPhase i phase).hasEnded k = true := by
  intro k j hkj hj howner
  have hlength : (u.setPhase i phase).calls.length = u.calls.length := List.length_modify _ _ _
  rw [hlength] at hj
  have hk : i ≠ k := by
    rintro rfl
    exact (h.pending hi hold).2.2 j hkj hj howner
  rw [hasEnded_setPhase_of_ne hk]
  exact h.sequential k j hkj hj howner

omit hold in
theorem Orderly.stands_setPhase (hstands : Stands client value phase) :
    ∀ call ∈ (u.setPhase i phase).calls, Stands client call.value call.phase := by
  apply forall_mem_modify_at (Q := fun call => Stands client call.value call.phase) i h.stands
  · exact fun call hcall => hcall
  · intro call hcall _
    rw [hi] at hcall
    cases hcall
    exact hstands

theorem Orderly.answered (hstands : Stands client value phase) (hphase : phase ≠ .finished (.ok ())) :
    Orderly client owner (u.setPhase i phase) where
  stands := h.stands_setPhase hi hstands
  sequential := h.sequential_setPhase hi hold phase
  recorded := by
    rw [sent_setPhase hi, sent_eq_nil hphase, ← (h.pending hi hold).2.1, Function.update_eq_self]
    have hlength : (u.setPhase i phase).calls.length = u.calls.length := List.length_modify _ _ _
    rw [hlength]
    exact h.recorded
  spelled := h.spelled

theorem Orderly.wrote {wire : Frame.Bytes} {machine : σ} (hwire : client.frame value = .ok wire)
    (hstream : client.stream machine = client.stream u.machine ++ wire) :
    Orderly client owner { u.setPhase i (.finished (.ok ())) with
      machine, written := u.written ++ [(i, value)] } where
  stands := h.stands_setPhase hi .sent
  sequential := h.sequential_setPhase hi hold _
  recorded := by
    obtain ⟨hlt, hnothing, hlast⟩ := h.pending hi hold
    have hlength : (u.setPhase i (.finished (.ok ()))).calls.length = u.calls.length :=
      List.length_modify _ _ _
    simp only [hlength, sent_setPhase hi]
    apply h.recorded.finish hlt hnothing hlast
    exact sent_fst
  spelled := by
    have hspelled := h.spelled.concat hwire
    simp only [values, List.map_append, hstream] at hspelled ⊢
    exact hspelled

end Pending

theorem Orderly.failed (h : Orderly client owner u) {call : Call k} (hcall : call ∈ u.calls)
    {e : SendError} (hfailed : call.phase = .finished (.error e)) : (∃ cause, e = .notEnqueued cause) ∨
      min client.endpoint.transport.maxFrameLen Frame.greatestLength <
        (k.encode call.value).length := by
  have hstands := h.stands call hcall
  rw [hfailed] at hstands
  cases hstands with
  | notEnqueued cause => exact .inl ⟨cause, rfl⟩
  | notEncoded hencode =>
    right
    by_contra hshort
    rw [Client.frame, Frame.encode, if_neg hshort] at hencode
    cases hencode

theorem Orderly.step_write (h : Orderly client owner u) {endpoint : Endpoint} {wire : Frame.Bytes}
    (hi : u.calls[i]? = some ⟨value, .writing endpoint wire⟩) : ∃ machine : σ,
      client.frame value = .ok wire ∧ client.stream machine = client.stream u.machine ++ wire ∧
      u.step client (.write i) = some { u.setPhase i (.finished (.ok ())) with
        machine, written := u.written ++ [(i, value)] } := by
  have hstands := h.stands _ (List.mem_of_getElem? hi)
  cases hstands with
  | writing hwire =>
    obtain ⟨machine, htransmit, hstream⟩ :=
      Endpoint.transmit_carries client.carries client.connected wire u.machine
    have hconclude : (Phase.conclude client.host (.writing client.endpoint wire)).run u.machine =
        (.ok (), machine) := by
      rw [Phase.conclude, StateT.run_map, htransmit]
      rfl
    refine ⟨machine, hwire, hstream, ?_⟩
    simp only [Uplink.step, hi, hconclude, Except.isOk, Except.toBool, if_true]

inductive Moved (client : Client k σ) (owner : Nat → Nat) (u : Uplink k σ) : Uplink k σ → Prop
  | began {value : k.Value} {phase : Phase}
      (hp : ∀ i, i < u.calls.length → owner i = owner u.calls.length → u.hasEnded i = true)
      (hstands : Stands client value phase) (hphase : phase ≠ .finished (.ok ())) :
      Moved client owner u (u.begin value phase)
  | answered {i : Nat} {value : k.Value} {old phase : Phase} (hi : u.calls[i]? = some ⟨value, old⟩)
      (hold : old.hasEnded = false) (hstands : Stands client value phase)
      (hphase : phase ≠ .finished (.ok ())) : Moved client owner u (u.setPhase i phase)
  | wrote {i : Nat} {value : k.Value} {wire : Frame.Bytes} {machine : σ}
      (hi : u.calls[i]? = some ⟨value, .writing client.endpoint wire⟩)
      (hwire : client.frame value = .ok wire)
      (hstream : client.stream machine = client.stream u.machine ++ wire) :
      Moved client owner u { u.setPhase i (.finished (.ok ())) with
        machine, written := u.written ++ [(i, value)] }

theorem Orderly.step_moved (h : Orderly client owner u) {event : Event k} (hp : u.Permits owner event)
    (hstep : u.step client event = some next) : Moved client owner u next := by
  cases event with
  | send value =>
    cases hstep
    obtain ⟨wire, hwire, hsend, -⟩ | ⟨cause, hcause, hsend, -⟩ := ofSend_cases client value
    · rw [hsend]
      exact .began hp (.enqueuing hwire) nofun
    · rw [hsend]
      exact .began hp (.notEncoded hcause) nofun
  | sendToEndpoint value =>
    cases hstep
    obtain ⟨wire, hwire, -, hpeer⟩ | ⟨cause, hcause, -, hpeer⟩ := ofSend_cases client value
    · rw [hpeer]
      exact .began hp (.writing hwire) nofun
    · rw [hpeer]
      exact .began hp (.notEncoded hcause) nofun
  | enqueue i result =>
    simp only [Uplink.step] at hstep
    split at hstep <;> cases hstep
    rename_i value out hi
    have hstands := h.stands _ (List.mem_of_getElem? hi)
    cases hstands with
    | enqueuing hwire =>
      cases result with
      | ok =>
        simp only [Phase.enqueued]
        exact .answered hi rfl (.writing hwire) nofun
      | error cause =>
        simp only [Phase.enqueued]
        exact .answered hi rfl (.notEnqueued cause) nofun
  | write i =>
    simp only [Uplink.step] at hstep
    cases hi : u.calls[i]? with
    | none =>
      rw [hi] at hstep
      cases hstep
    | some call =>
      obtain ⟨value, phase⟩ := call
      cases phase with
      | writing endpoint wire =>
        obtain ⟨machine, hwire, hstream, hwrite⟩ := h.step_write hi
        simp only [Uplink.step] at hwrite
        rw [hwrite] at hstep
        cases hstep
        obtain ⟨⟩ := h.stands _ (List.mem_of_getElem? hi)
        exact .wrote hi hwire hstream
      | _ =>
        rw [hi] at hstep
        cases hstep

theorem Orderly.moved (h : Orderly client owner u) (hmoved : Moved client owner u next) :
    Orderly client owner next := by
  cases hmoved with
  | began hp hstands hphase => exact h.begin hp hstands hphase
  | answered hi hold hstands hphase => exact h.answered hi hold hstands hphase
  | wrote hi hwire hstream => exact h.wrote hi rfl hwire hstream

theorem Moved.prefixes (hmoved : Moved client owner u next) :
    u.values <+: next.values ∧ client.stream u.machine <+: client.stream next.machine := by
  cases hmoved with
  | began => exact ⟨List.prefix_refl _, List.prefix_refl _⟩
  | answered => exact ⟨List.prefix_refl _, List.prefix_refl _⟩
  | wrote _ _ hstream =>
    constructor
    · exact (List.prefix_append _ _).map Prod.snd
    · exact hstream ▸ List.prefix_append _ _

end Uplink

end Net

end Relay
