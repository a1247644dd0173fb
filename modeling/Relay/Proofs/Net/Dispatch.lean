import Relay.Proofs.Channel.Closing
import Relay.Proofs.Net.Rejection
import Relay.Proofs.Net.Uplink

namespace Relay

open Channel (Crowd given)
open Ledger (Fate Sending Yields host)
open Distributed (outbound_none outbound_some outbound_error_of_fits remote?_of_client)
open Net.Uplink (Phase)

variable {k : Message.Kind}

/-- A call, and the operation on the channel that it waits for, if there is one. -/
structure Dispatch.Call (k : Message.Kind) where
  value : k.Value
  caller : Option Nat
  phase : Phase

/-- An operation puts a value into the channel, or a call asks the machine to send bytes. -/
inductive Dispatch.Deed (k : Message.Kind) where
  | enqueued (caller : Nat) (value : k.Value)
  | requested (call : Nat) (sending : Sending)

/-- The calls in the order in which they began, the operations on the channel, the machine, and what was done,
earliest first. -/
structure Dispatch (k : Message.Kind) where
  calls : List (Dispatch.Call k)
  crowd : Crowd k.Value
  machine : Ledger
  deeds : List (Dispatch.Deed k)

namespace Dispatch

def Deed.isBy (i : Nat) (caller : Option Nat) : Deed k → Bool
  | .enqueued c _ => caller == some c
  | .requested j _ => j == i

/-- What a call has done, itself or by its operation on the channel. -/
def deedsOf (d : Dispatch k) (i : Nat) : List (Deed k) :=
  d.deeds.filter (Deed.isBy i (d.calls[i]?.bind Call.caller))

def setPhase (d : Dispatch k) (i : Nat) (phase : Phase) : Dispatch k :=
  { d with calls := d.calls.modify i fun call => { call with phase } }

def enqueuedBy (e : Nat × k.Value) : Deed k := .enqueued e.1 e.2

/-- What can happen next: a call begins, the channel is used or has an answer for a call, a call writes, or the
machine is used by others. -/
inductive Moved (fates : Nat → Fate) (line : Distributed k) (d : Dispatch k) : Dispatch k → Prop
  | send (value : k.Value) {out : Option (Endpoint × Frame.Bytes)} {crowd : Crowd k.Value}
      (hout : Phase.ofSend line value = .enqueuing out)
      (hcrowd : d.crowd.step (.arrive (.send value .unlimited)) = some crowd) :
      Moved fates line d { d with
        calls := d.calls ++ [⟨value, some d.crowd.callers.length, .enqueuing out⟩], crowd }
  | refuse {value : k.Value} {result : Except Distributed.SendError Unit}
      (hout : Phase.ofSend line value = .finished result) :
      Moved fates line d { d with calls := d.calls ++ [⟨value, none, .finished result⟩] }
  | use (event : Channel.Event k.Value) {crowd : Crowd k.Value} (hcrowd : d.crowd.step event = some crowd) :
      Moved fates line d { d with
        crowd, deeds := d.deeds ++ (event.accepted d.crowd crowd).map enqueuedBy }
  | answer {i caller : Nat} {value : k.Value} {out : Option (Endpoint × Frame.Bytes)}
      {result : Except Channel.Error Unit} (hi : d.calls[i]? = some ⟨value, some caller, .enqueuing out⟩)
      (hreply : d.crowd.reply? caller = some (.sent result)) :
      Moved fates line d (d.setPhase i (Phase.enqueued result (.enqueuing out)))
  | write {i : Nat} {value : k.Value} {caller : Option Nat} {endpoint : Endpoint} {wire : Frame.Bytes}
      {result : Except Distributed.SendError Unit} {machine : Ledger}
      (hi : d.calls[i]? = some ⟨value, caller, .writing endpoint wire⟩)
      (h : (Phase.conclude (host fates) (.writing endpoint wire)).run d.machine = some (result, machine)) :
      Moved fates line d { d.setPhase i (.finished result) with
        machine, deeds := d.deeds ++ (machine.sendings.drop d.machine.sendings.length).map (.requested i) }
  | others (machine : Ledger) : Moved fates line d { d with machine }

/-- What can come about, whatever the channel holds and is used for at the beginning. -/
inductive Reachable (fates : Nat → Fate) (line : Distributed k) : Dispatch k → Prop
  | start (crowd : Crowd k.Value) (machine : Ledger) : Reachable fates line ⟨[], crowd, machine, []⟩
  | step {d next : Dispatch k} : Reachable fates line d → Moved fates line d next →
    Reachable fates line next

variable {fates : Nat → Fate} {line : Distributed k} {d next : Dispatch k} {value : k.Value}
  {e : Endpoint} {wire : Frame.Bytes} {w : Ledger} {i : Nat}

/-- What writing comes to: a client inside the process has nothing to do, any other one makes one request. -/
inductive Transmitted (e : Endpoint) (wire : Frame.Bytes) (w : Ledger) :
    Except Endpoint.Error Unit → Ledger → Prop
  | nowhere {v : Ledger} (hinside : e.address.protocol = .inproc) (hv : v.sendings = w.sendings) :
      Transmitted e wire w (.ok ()) v
  | requested {v : Ledger} {sending : Sending} (houtside : e.address.protocol ≠ .inproc)
      (hv : v.sendings = w.sendings ++ [sending]) (hbytes : sending.bytes = wire)
      (hsocket : e.socket.id? = some sending.socket) :
      Transmitted e wire w (sending.result.mapError (.notSent e.address)) v

theorem yields_send {socket : Nat} {peer : Option SocketAddress} :
    Yields (Ledger.send fates socket peer wire) w fun r v =>
      v.sendings = w.sendings ++ [⟨socket, peer, wire, r⟩] := by
  constructor
  intro r v hrun
  cases hrun
  rfl

theorem yields_requested {socket : Nat} {peer : Option SocketAddress} (hfits : e.socket.Fits e.address)
    (hsocket : e.socket.id? = some socket) :
    Yields (do e.counted (host fates) (← Ledger.send fates socket peer wire)) w (Transmitted e wire w) := by
  apply yields_send.bind
  intro r v hv
  have htransmitted : Transmitted e wire w (r.mapError (.notSent e.address)) v :=
    .requested (hfits.outside hsocket) hv rfl hsocket
  cases r with
  | error cause => exact .pure htransmitted
  | ok => exact .pure htransmitted

theorem yields_transmit (hfits : e.socket.Fits e.address) (hclient : e.isServer = false) :
    Yields (e.transmit (host fates) wire) w (Transmitted e wire w) := by
  unfold Endpoint.transmit
  obtain ⟨hsocket, hinside⟩ | ⟨id, hsocket, -⟩ | ⟨id, peer, hsocket, -⟩ := hfits.of_client hclient
  · rw [hsocket, hclient]
    exact .pure (.nowhere hinside rfl)
  · have hid : e.socket.id? = some id := congrArg _ hsocket
    rw [hsocket]
    exact yields_requested hfits hid
  · have hid : e.socket.id? = some id := congrArg _ hsocket
    rw [hsocket]
    exact yields_requested hfits hid

/-- What is known of a call, and which requests it has made. -/
inductive Stands (line : Distributed k) (crowd : Crowd k.Value) (value : k.Value) :
    Option Nat → Phase → List Sending → Prop
  | refused (cause : Frame.Error) :
      Stands line crowd value none (.finished (.error (.notEncoded (.notEncoded cause)))) []
  | enqueuing {caller : Nat} {out : Option (Endpoint × Frame.Bytes)}
      (hcall : crowd.calls[caller]? = some (.send value .unlimited)) (hout : line.outbound value = .ok out)
      (hrefused : ∀ call cause, crowd.outcome? caller = some (call, .sent (.error cause)) →
        cause = .closed ∧ crowd.channel.closed = true) :
      Stands line crowd value (some caller) (.enqueuing out) []
  | closed {caller : Nat}
      (houtcome : crowd.outcome? caller = some (.send value .unlimited, .sent (.error .closed)))
      (hclosed : crowd.channel.closed = true) :
      Stands line crowd value (some caller) (.finished (.error (.notEnqueued .closed))) []
  | writing {caller : Nat} {e : Endpoint} {wire : Frame.Bytes}
      (houtcome : crowd.outcome? caller = some (.send value .unlimited, .sent (.ok ())))
      (hout : line.outbound value = .ok (some (e, wire))) :
      Stands line crowd value (some caller) (.writing e wire) []
  | kept {caller : Nat}
      (houtcome : crowd.outcome? caller = some (.send value .unlimited, .sent (.ok ())))
      (hremote : line.remote? = none) : Stands line crowd value (some caller) (.finished (.ok ())) []
  | written {caller : Nat} {e : Endpoint} {sending : Sending}
      (houtcome : crowd.outcome? caller = some (.send value .unlimited, .sent (.ok ())))
      (hremote : line.remote? = some e) (hencode : e.encode (k.encode value) = .ok sending.bytes)
      (hsocket : e.socket.id? = some sending.socket) (hresult : sending.result = .ok ()) :
      Stands line crowd value (some caller) (.finished (.ok ())) [sending]
  | lost {caller : Nat} {sending : Sending} {cause : SystemError} {address : Address}
      (houtcome : crowd.outcome? caller = some (.send value .unlimited, .sent (.ok ())))
      (hresult : sending.result = .error cause) :
      Stands line crowd value (some caller)
        (.finished (.error (.notTransmitted (.notSent address cause)))) [sending]

section Crowd

variable {crowd after : Crowd k.Value} {event : Channel.Event k.Value} {caller : Option Nat} {phase : Phase}
  {requests : List Sending}

theorem outcome?_stays {c : Nat} {outcome : Channel.Call k.Value × Channel.Reply k.Value}
    (h : crowd.step event = some after) (hsome : crowd.outcome? c = some outcome) :
    after.outcome? c = some outcome := by
  obtain hsame | ⟨-, hnone, -⟩ := Crowd.step_outcome? h c
  · exact hsame.trans hsome
  · rw [hsome] at hnone
    cases hnone

theorem calls_stay {c : Nat} {call : Channel.Call k.Value} (h : crowd.step event = some after)
    (hcall : crowd.calls[c]? = some call) : after.calls[c]? = some call := by
  rw [Crowd.step_calls h, List.getElem?_append_left (List.getElem?_eq_some_iff.1 hcall).1, hcall]

theorem closed_of_warrants {c : Channel k.Value} {cause : Channel.Error}
    (h : Channel.Warrants c (.send value .unlimited) (.sent (.error cause))) :
    cause = .closed ∧ c.closed = true := by
  generalize hcall : Channel.Call.send value .unlimited = call at h
  generalize hreply : Channel.Reply.sent (.error cause) = reply at h
  cases h with
  | closed hclosed =>
    subst hcall
    cases hreply
    exact ⟨rfl, hclosed⟩
  | refused e _ he =>
    subst hcall
    cases he
  | sent | received => cases hreply

/-- A call that waits for the channel as long as it takes is refused only when the channel is closed. -/
theorem closed_of_refused {c : Nat} {call : Channel.Call k.Value} {cause : Channel.Error}
    (h : crowd.step event = some after) (hcall : crowd.calls[c]? = some (.send value .unlimited))
    (hbefore : ∀ call cause, crowd.outcome? c = some (call, .sent (.error cause)) →
      cause = .closed ∧ crowd.channel.closed = true)
    (hrefused : after.outcome? c = some (call, .sent (.error cause))) :
    cause = .closed ∧ after.channel.closed = true := by
  obtain hsame | ⟨-, -, call', reply, hwarrants, houtcome⟩ := Crowd.step_outcome? h c
  · rw [hsame] at hrefused
    obtain ⟨hcause, hclosed⟩ := hbefore call cause hrefused
    exact ⟨hcause, (Crowd.step_of_closed h hclosed).1⟩
  · have hstill := Crowd.calls_of_outcome? houtcome
    rw [calls_stay h hcall] at hstill
    cases hstill
    rw [hrefused] at houtcome
    cases houtcome
    obtain ⟨hcause, hclosed⟩ := closed_of_warrants hwarrants
    exact ⟨hcause, (Crowd.step_of_closed h hclosed).1⟩

theorem Stands.step (hstands : Stands line crowd value caller phase requests)
    (h : crowd.step event = some after) : Stands line after value caller phase requests := by
  cases hstands with
  | refused cause => exact .refused cause
  | enqueuing hcall hout hrefused =>
    apply Stands.enqueuing (calls_stay h hcall) hout
    intro call cause hsome
    exact closed_of_refused h hcall hrefused hsome
  | closed houtcome hclosed =>
    exact .closed (outcome?_stays h houtcome) (Crowd.step_of_closed h hclosed).1
  | writing houtcome hout => exact .writing (outcome?_stays h houtcome) hout
  | kept houtcome hremote => exact .kept (outcome?_stays h houtcome) hremote
  | written houtcome hremote hencode hsocket hresult =>
    exact .written (outcome?_stays h houtcome) hremote hencode hsocket hresult
  | lost houtcome hresult => exact .lost (outcome?_stays h houtcome) hresult

/-- What the operation of a call has put into the channel. -/
def entered (crowd : Crowd k.Value) : Option Nat → List (Deed k)
  | some c => (given c (crowd.outcome? c)).map enqueuedBy
  | none => []

theorem entered_step (h : crowd.step event = some after) (i : Nat) (caller : Option Nat) :
    entered after caller = entered crowd caller ++
      ((event.accepted crowd after).map enqueuedBy).filter (Deed.isBy i caller) := by
  rw [List.filter_map]
  cases caller with
  | none =>
    have hnobody : (event.accepted crowd after).filter (Deed.isBy i none ∘ enqueuedBy) = [] :=
      List.filter_eq_nil_iff.2 fun e _ => nofun
    rw [hnobody]
    rfl
  | some c =>
    have hown : (Deed.isBy i (some c) ∘ enqueuedBy : Nat × k.Value → Bool) = fun e => e.1 == c := by
      funext e
      exact BEq.comm
    rw [hown, entered, entered, Crowd.given_step h, List.map_append]

/-- What a call has done is what its operation put into the channel, and then what it has requested. -/
def Accounted (line : Distributed k) (crowd : Crowd k.Value) (deeds : List (Deed k)) (i : Nat)
    (call : Call k) : Prop :=
  ∃ requests, Stands line crowd call.value call.caller call.phase requests ∧
    deeds.filter (Deed.isBy i call.caller) = entered crowd call.caller ++ requests.map (.requested i)

theorem Stands.requests_eq_nil (hstands : Stands line crowd value caller phase requests)
    (h : crowd.step event = some after) : requests = [] ∨ entered after caller = entered crowd caller := by
  cases hstands with
  | written houtcome | lost houtcome =>
    right
    rw [entered, entered, houtcome, outcome?_stays h houtcome]
  | _ => exact .inl rfl

theorem Accounted.use {deeds : List (Deed k)} {call : Call k} (haccounted : Accounted line crowd deeds i call)
    (h : crowd.step event = some after) :
    Accounted line after (deeds ++ (event.accepted crowd after).map enqueuedBy) i call := by
  obtain ⟨requests, hstands, hdeeds⟩ := haccounted
  have hentered := entered_step h i call.caller
  have hlog : (deeds ++ (event.accepted crowd after).map enqueuedBy).filter (Deed.isBy i call.caller) =
      entered after call.caller ++ requests.map (.requested i) := by
    rw [List.filter_append, hdeeds, hentered]
    -- What enters the channel does so before the first request.
    obtain rfl | hsame := hstands.requests_eq_nil h
    · simp
    · rw [hsame, List.self_eq_append_right] at hentered
      rw [hentered, List.append_nil, List.append_nil]
  exact ⟨requests, hstands.step h, hlog⟩

end Crowd

def Deed.IsKnown (callers calls : Nat) : Deed k → Prop
  | .enqueued c _ => c < callers
  | .requested i _ => i < calls

theorem Deed.IsKnown.mono {callers callers' calls calls' : Nat} {deed : Deed k} (h : deed.IsKnown callers calls)
    (hcallers : callers ≤ callers') (hcalls : calls ≤ calls') : deed.IsKnown callers' calls' := by
  cases deed with
  | enqueued c _ => exact Nat.lt_of_lt_of_le h hcallers
  | requested i _ => exact Nat.lt_of_lt_of_le h hcalls

structure Sound (line : Distributed k) (d : Dispatch k) : Prop where
  known : ∀ deed ∈ d.deeds, deed.IsKnown d.crowd.callers.length d.calls.length
  accounted : ∀ i call, d.calls[i]? = some call → Accounted line d.crowd d.deeds i call

theorem callers_le {crowd after : Crowd k.Value} {event : Channel.Event k.Value}
    (h : crowd.step event = some after) : crowd.callers.length ≤ after.callers.length := by
  have hcalls := congrArg List.length (Crowd.step_calls h)
  rw [List.length_append, Crowd.calls, Crowd.calls, List.length_map, List.length_map] at hcalls
  exact hcalls ▸ Nat.le_add_right _ _

theorem accepted_lt {crowd after : Crowd k.Value} {event : Channel.Event k.Value}
    (h : crowd.step event = some after) : ∀ e ∈ event.accepted crowd after, e.1 < crowd.callers.length := by
  cases event with
  | look i spent woken =>
    obtain ⟨caller, hc, -, -⟩ := Crowd.step_look h
    intro e he
    obtain ⟨value, -, rfl⟩ := List.mem_map.1 he
    exact (List.getElem?_eq_some_iff.1 hc).1
  | _ => exact fun _ he => (List.not_mem_nil he).elim

theorem Sound.use (hd : Sound line d) {crowd : Crowd k.Value} {event : Channel.Event k.Value}
    (h : d.crowd.step event = some crowd) :
    Sound line { d with crowd, deeds := d.deeds ++ (event.accepted d.crowd crowd).map enqueuedBy } where
  known := by
    intro deed hdeed
    rcases List.mem_append.1 hdeed with hold | hnew
    · exact (hd.known deed hold).mono (callers_le h) (Nat.le_refl _)
    · obtain ⟨e, he, rfl⟩ := List.mem_map.1 hnew
      exact Nat.lt_of_lt_of_le (accepted_lt h e he) (callers_le h)
  accounted _ _ hi := (hd.accounted _ _ hi).use h

theorem isBy_requested {i j : Nat} {caller : Option Nat} {sendings : List Sending} :
    (sendings.map (.requested i) : List (Deed k)).filter (Deed.isBy j caller) =
      if i = j then sendings.map (.requested i) else [] := by
  split
  · rename_i hij
    apply List.filter_eq_self.2
    intro deed hdeed
    obtain ⟨sending, -, rfl⟩ := List.mem_map.1 hdeed
    exact beq_iff_eq.2 hij
  · rename_i hij
    apply List.filter_eq_nil_iff.2
    intro deed hdeed
    obtain ⟨sending, -, rfl⟩ := List.mem_map.1 hdeed
    intro hown
    exact hij (beq_iff_eq.1 hown)

theorem Sound.begin (hd : Sound line d) {call : Call k}
    (hstands : Stands line d.crowd call.value call.caller call.phase [])
    (hfresh : ∀ c, call.caller = some c → d.crowd.outcome? c = none ∧ ∀ v, .enqueued c v ∉ d.deeds) :
    Sound line { d with calls := d.calls ++ [call] } where
  known := by
    intro deed hdeed
    apply (hd.known deed hdeed).mono (Nat.le_refl _)
    rw [List.length_append]
    exact Nat.le_add_right _ _
  accounted := by
    intro i call' hi
    obtain hold | ⟨rfl, rfl⟩ := of_getElem?_concat hi
    · exact hd.accounted i call' hold
    · have hentered : entered d.crowd call'.caller = [] := by
        cases hcaller : call'.caller with
        | none => rfl
        | some c =>
          rw [entered, (hfresh c hcaller).1]
          rfl
      have hnothing : d.deeds.filter (Deed.isBy d.calls.length call'.caller) = [] := by
        apply List.filter_eq_nil_iff.2
        intro deed hdeed hown
        cases deed with
        | enqueued c v => exact (hfresh c (beq_iff_eq.1 hown)).2 v hdeed
        | requested j sending =>
          have hbefore : j < d.calls.length := hd.known _ hdeed
          exact hbefore.ne (beq_iff_eq.1 hown)
      exact ⟨[], hstands, by rw [hentered, hnothing, List.map_nil, List.append_nil]⟩

theorem Sound.proceed (hd : Sound line d) {call : Call k} (hi : d.calls[i]? = some call) (phase : Phase)
    (machine : Ledger) (sendings : List Sending)
    (haccounted : Accounted line d.crowd (d.deeds ++ sendings.map (.requested i)) i { call with phase }) :
    Sound line { d.setPhase i phase with
      machine, deeds := d.deeds ++ sendings.map (.requested i) } where
  known := by
    have hlength : (d.setPhase i phase).calls.length = d.calls.length := List.length_modify _ _ _
    intro deed hdeed
    simp only [hlength]
    rcases List.mem_append.1 hdeed with hold | hnew
    · exact hd.known deed hold
    · obtain ⟨sending, -, rfl⟩ := List.mem_map.1 hnew
      exact (List.getElem?_eq_some_iff.1 hi).1
  accounted := by
    intro j call' hj
    obtain ⟨before, hbefore, ⟨rfl, rfl⟩ | ⟨hij, rfl⟩⟩ := of_getElem?_modify hj
    · rw [hi] at hbefore
      cases hbefore
      exact haccounted
    · obtain ⟨requests, hstands, hdeeds⟩ := hd.accounted j call' hbefore
      refine ⟨requests, hstands, ?_⟩
      rw [List.filter_append, isBy_requested, if_neg hij, List.append_nil]
      exact hdeeds

theorem ofSend_enqueuing {out : Option (Endpoint × Frame.Bytes)}
    (h : Phase.ofSend line value = .enqueuing out) : line.outbound value = .ok out := by
  unfold Net.Uplink.Phase.ofSend at h
  split at h <;> cases h
  assumption

theorem ofSend_finished {result : Except Distributed.SendError Unit}
    (h : Phase.ofSend line value = .finished result) :
    ∃ error, line.outbound value = .error error ∧ result = .error error := by
  unfold Net.Uplink.Phase.ofSend at h
  split at h <;> cases h
  rename_i error hout
  exact ⟨error, hout, rfl⟩

theorem Sound.send (hd : Sound line d) {out : Option (Endpoint × Frame.Bytes)} {crowd : Crowd k.Value}
    (hout : line.outbound value = .ok out)
    (h : d.crowd.step (.arrive (.send value .unlimited)) = some crowd) :
    Sound line { d with
      calls := d.calls ++ [⟨value, some d.crowd.callers.length, .enqueuing out⟩], crowd } := by
  have harrived := hd.use h
  simp only [Channel.Event.accepted, List.map_nil, List.append_nil] at harrived
  have hlast : crowd.calls[d.crowd.callers.length]? = some (.send value .unlimited) := by
    rw [Crowd.step_calls h, Crowd.calls, ← List.length_map Channel.Caller.call]
    exact List.getElem?_concat_length
  have hnone : crowd.outcome? d.crowd.callers.length = none := by
    cases h
    rw [Crowd.outcome?_arrive rfl]
    exact d.crowd.outcome?_beyond (Nat.le_refl _)
  apply harrived.begin
  · apply Stands.enqueuing hlast hout
    intro call cause hsome
    rw [hnone] at hsome
    cases hsome
  · rintro _ ⟨⟩
    exact ⟨hnone, fun v hmem => Nat.lt_irrefl _ (hd.known _ hmem)⟩

theorem Sound.refuse (hd : Sound line d) (cause : Frame.Error) : Sound line { d with
    calls := d.calls ++ [⟨value, none, .finished (.error (.notEncoded (.notEncoded cause)))⟩] } := by
  apply hd.begin (.refused cause)
  intro c hc
  cases hc

theorem Accounted.answer {crowd : Crowd k.Value} {deeds : List (Deed k)} {caller : Nat}
    {out : Option (Endpoint × Frame.Bytes)} {result : Except Channel.Error Unit}
    (haccounted : Accounted line crowd deeds i ⟨value, some caller, .enqueuing out⟩)
    (hreply : crowd.reply? caller = some (.sent result)) :
    Accounted line crowd deeds i ⟨value, some caller, Phase.enqueued result (.enqueuing out)⟩ := by
  obtain ⟨requests, hstands, hdeeds⟩ := haccounted
  cases hstands with
  | enqueuing hcall hout hrefused =>
    have houtcome := Crowd.outcome?_of_reply? hcall hreply
    have hanswered : Stands line crowd value (some caller) (Phase.enqueued result (.enqueuing out)) [] := by
      cases result with
      | error cause =>
        obtain ⟨rfl, hclosed⟩ := hrefused _ cause houtcome
        exact .closed houtcome hclosed
      | ok =>
        cases out with
        | none => exact .kept houtcome (outbound_none hout)
        | some out => exact .writing houtcome hout
    exact ⟨[], hanswered, hdeeds⟩

theorem Accounted.write {crowd : Crowd k.Value} {deeds : List (Deed k)} {caller : Option Nat} {v : Ledger}
    {r : Except Endpoint.Error Unit} (haccounted : Accounted line crowd deeds i ⟨value, caller, .writing e wire⟩)
    (htransmitted : Transmitted e wire w r v) :
    Accounted line crowd (deeds ++ (v.sendings.drop w.sendings.length).map (.requested i)) i
      ⟨value, caller, .finished (r.mapError .notTransmitted)⟩ := by
  obtain ⟨requests, hstands, hdeeds⟩ := haccounted
  cases hstands with
  | @writing caller _ _ houtcome hout =>
    obtain ⟨hattached, hclient, hencode⟩ := outbound_some hout
    have hremote := remote?_of_client hattached hclient
    cases htransmitted with
    | nowhere hinside hv =>
      rw [if_pos hinside] at hremote
      rw [hv, List.drop_length, List.map_nil, List.append_nil]
      exact ⟨[], .kept houtcome hremote, hdeeds⟩
    | @requested _ sending houtside hv hbytes hsocket =>
      rw [if_neg houtside] at hremote
      have hwritten : Stands line crowd value (some caller)
          (.finished ((sending.result.mapError (.notSent e.address)).mapError .notTransmitted)) [sending] := by
        cases hresult : sending.result with
        | ok => exact .written houtcome hremote (hbytes ▸ hencode) hsocket hresult
        | error cause => exact .lost houtcome hresult
      have hlog : (deeds ++ (v.sendings.drop w.sendings.length).map (Deed.requested i)).filter
          (Deed.isBy i (some caller)) = entered crowd (some caller) ++ [sending].map (.requested i) := by
        rw [hv, List.drop_left, List.filter_append, hdeeds, isBy_requested, if_pos rfl, List.map_nil,
          List.append_nil]
      exact ⟨[sending], hwritten, hlog⟩

theorem Moved.sound (h : Moved fates line d next) (hd : Sound line d)
    (hfits : ∀ e, line.endpoint = some e → e.socket.Fits e.address) : Sound line next := by
  cases h with
  | send value hout hcrowd => exact hd.send (ofSend_enqueuing hout) hcrowd
  | refuse hout =>
    obtain ⟨error, herror, rfl⟩ := ofSend_finished hout
    obtain ⟨cause, rfl⟩ := outbound_error_of_fits hfits herror
    exact hd.refuse cause
  | use event hcrowd => exact hd.use hcrowd
  | @answer i caller value out result hi hreply =>
    have hanswered := (hd.accounted i _ hi).answer hreply
    have hproceed := hd.proceed hi (Phase.enqueued result (.enqueuing out)) d.machine []
    rw [List.map_nil, List.append_nil] at hproceed
    exact hproceed hanswered
  | @write i value caller e wire result machine hi h =>
    obtain ⟨requests, hstands, -⟩ := hd.accounted i _ hi
    obtain ⟨hattached, hclient, -⟩ : line.endpoint = some e ∧ e.isServer = false ∧
        e.encode (k.encode value) = .ok wire := by
      cases hstands with
      | writing _ hout => exact outbound_some hout
    rw [Net.Uplink.Phase.conclude, StateT.run_map] at h
    obtain ⟨⟨r, v⟩, hrun, hr⟩ := Option.map_eq_some_iff.1 h
    cases hr
    have htransmitted := (yields_transmit (hfits e hattached) hclient).returns r _ hrun
    exact hd.proceed hi _ _ _ ((hd.accounted i _ hi).write htransmitted)
  | others machine => exact ⟨hd.known, hd.accounted⟩

theorem Reachable.sound (hd : Reachable fates line d)
    (hfits : ∀ e, line.endpoint = some e → e.socket.Fits e.address) : Sound line d := by
  induction hd with
  | start crowd machine =>
    constructor
    · exact fun _ hdeed => (List.not_mem_nil hdeed).elim
    · intro i call hi
      cases hi
  | step _ hmoved ih => exact hmoved.sound ih hfits

theorem deedsOf_eq {call : Call k} (hi : d.calls[i]? = some call) :
    d.deedsOf i = d.deeds.filter (Deed.isBy i call.caller) := by
  rw [deedsOf, hi]
  rfl

theorem entered_of_sent {crowd : Crowd k.Value} {c : Nat}
    (houtcome : crowd.outcome? c = some (.send value .unlimited, .sent (.ok ()))) :
    entered crowd (some c) = [.enqueued c value] := by
  rw [entered, houtcome]
  rfl

section Settled

variable {crowd : Crowd k.Value} {deeds : List (Deed k)} {caller : Option Nat}

theorem Accounted.of_notEncoded {cause : Endpoint.Error}
    (h : Accounted line crowd deeds i ⟨value, caller, .finished (.error (.notEncoded cause))⟩) :
    caller = none ∧ deeds.filter (Deed.isBy i caller) = [] := by
  obtain ⟨requests, hstands, hdeeds⟩ := h
  cases hstands with
  | refused => exact ⟨rfl, hdeeds⟩

theorem Accounted.of_notEnqueued {cause : Channel.Error}
    (h : Accounted line crowd deeds i ⟨value, caller, .finished (.error (.notEnqueued cause))⟩) :
    cause = .closed ∧ crowd.channel.closed = true ∧ deeds.filter (Deed.isBy i caller) = [] := by
  obtain ⟨requests, hstands, hdeeds⟩ := h
  cases hstands with
  | closed houtcome hclosed =>
    rw [entered, houtcome] at hdeeds
    exact ⟨rfl, hclosed, hdeeds⟩

theorem Accounted.of_notTransmitted {cause : Endpoint.Error}
    (h : Accounted line crowd deeds i ⟨value, caller, .finished (.error (.notTransmitted cause))⟩) :
    ∃ c sending failure, caller = some c ∧
      deeds.filter (Deed.isBy i caller) = [.enqueued c value, .requested i sending] ∧
      sending.result = .error failure := by
  obtain ⟨requests, hstands, hdeeds⟩ := h
  cases hstands with
  | @lost c sending failure address houtcome hresult =>
    rw [entered_of_sent houtcome] at hdeeds
    exact ⟨c, sending, failure, rfl, hdeeds, hresult⟩

theorem Accounted.of_ok (h : Accounted line crowd deeds i ⟨value, caller, .finished (.ok ())⟩) :
    ∃ c, caller = some c ∧
      (line.remote? = none → deeds.filter (Deed.isBy i caller) = [.enqueued c value]) ∧
      ∀ e, line.remote? = some e → ∃ sending : Sending,
        deeds.filter (Deed.isBy i caller) = [.enqueued c value, .requested i sending] ∧
        sending.result = .ok () ∧ e.socket.id? = some sending.socket ∧
        e.encode (k.encode value) = .ok sending.bytes := by
  obtain ⟨requests, hstands, hdeeds⟩ := h
  cases hstands with
  | @kept c houtcome hremote =>
    rw [entered_of_sent houtcome] at hdeeds
    refine ⟨c, rfl, fun _ => hdeeds, ?_⟩
    intro e he
    rw [hremote] at he
    cases he
  | @written c e sending houtcome hremote hencode hsocket hresult =>
    rw [entered_of_sent houtcome] at hdeeds
    refine ⟨c, rfl, ?_, ?_⟩
    · intro hnone
      rw [hremote] at hnone
      cases hnone
    · intro e' he'
      rw [hremote] at he'
      cases he'
      exact ⟨sending, hdeeds, hresult, hsocket, hencode⟩

theorem Accounted.ne_notAClient {result : Except Distributed.SendError Unit}
    (h : Accounted line crowd deeds i ⟨value, caller, .finished result⟩) (address : Address) :
    result ≠ .error (.notEncoded (.notAClient address)) ∧
      result ≠ .error (.notTransmitted (.notAClient address)) := by
  obtain ⟨requests, hstands, -⟩ := h
  constructor
  · rintro rfl
    cases hstands
  · rintro rfl
    cases hstands

end Settled

/-- Sending is the phases of a call in turn, and these are what calls of many threads go through. A call that
fails to encode its value, or whose channel is closed, has done nothing. In any other case its value entered the
channel once. If a client is attached through which values leave the process, the bytes that encode the value
were written after that, and nothing else; the call fails if and only if that does. No call is told that its
endpoint is not a client. -/
theorem send_all_or_nothing {s : Station k} {call : Call k} {result : Except Distributed.SendError Unit}
    (hs : Station.Reachable fates s) (hd : Reachable fates s.line d) (hi : d.calls[i]? = some call)
    (hended : call.phase = .finished result) :
    (∀ {m : Type → Type} [Monad m] [LawfulMonad m] (host : Host m) (value : k.Value)
      (enqueue : k.Value → Channel k.Value → Except Channel.Error Unit × Channel k.Value),
      s.line.send host enqueue value = (do
        let asked := (Phase.ofSend s.line value).ask (enqueue value) s.line.channel
        return (← asked.1.conclude host, { s.line with channel := asked.2 }))) ∧
    (∀ e, result = .error (.notEncoded e) → call.caller = none ∧ d.deedsOf i = []) ∧
    (∀ e, result = .error (.notEnqueued e) →
      e = .closed ∧ d.crowd.channel.closed = true ∧ d.deedsOf i = []) ∧
    (∀ e, result = .error (.notTransmitted e) → ∃ caller sending cause, call.caller = some caller ∧
      d.deedsOf i = [.enqueued caller call.value, .requested i sending] ∧
      sending.result = .error cause) ∧
    (result = .ok () → ∃ caller, call.caller = some caller ∧
      (s.line.remote? = none → d.deedsOf i = [.enqueued caller call.value]) ∧
      ∀ e, s.line.remote? = some e → ∃ sending : Sending,
        d.deedsOf i = [.enqueued caller call.value, .requested i sending] ∧ sending.result = .ok () ∧
        e.socket.id? = some sending.socket ∧ e.encode (k.encode call.value) = .ok sending.bytes) ∧
    ∀ address, result ≠ .error (.notEncoded (.notAClient address)) ∧
      result ≠ .error (.notTransmitted (.notAClient address)) := by
  obtain ⟨value, caller, phase⟩ := call
  have haccounted := (hd.sound fun _ => hs.fits).accounted i _ hi
  rw [deedsOf_eq hi]
  simp only at hended haccounted ⊢
  subst hended
  refine ⟨fun host => Phase.send_eq host s.line, ?_, ?_, ?_, ?_, haccounted.ne_notAClient⟩
  · rintro e rfl
    exact haccounted.of_notEncoded
  · rintro e rfl
    exact haccounted.of_notEnqueued
  · rintro e rfl
    exact haccounted.of_notTransmitted
  · rintro rfl
    exact haccounted.of_ok

/-- One call has written its value when another, which waits for room, finds the channel closed. -/
theorem send_all_or_nothing_closed_while_waiting : ∃ (fates : Nat → Fate) (s : Station .raw) (d : Dispatch .raw)
    (e : Endpoint), Station.Reachable fates s ∧ Reachable fates s.line d ∧ s.line.remote? = some e ∧
    (∃ caller sending, d.deedsOf 0 = [.enqueued caller [7], .requested 0 sending] ∧
      e.encode [7] = .ok sending.bytes) ∧
    d.calls[1]?.map Call.phase = some (.finished (.error (.notEnqueued .closed))) ∧ d.deedsOf 1 = [] := by
  let fates (_ : Nat) : Fate := ⟨none, .ok [.v4 ⟨127, 0, 0, 1⟩ 9], none, []⟩
  let e : Endpoint := ⟨⟨.tcp, "127.0.0.1", some 9, false⟩, .standard, .allowAll, .stream 0, false⟩
  let bare : Distributed .raw := .ofChannel ⟨1, .plain, [], false⟩ .allowAll .standard
  let s : Station .raw := ⟨{ bare with endpoint := some e }, [], ⟨4, 1, [0], [], []⟩⟩
  have hattach : (bare.attach (host fates) "tcp://127.0.0.1:9").run .initial =
      some ((.ok (), s.line), s.machine) := rfl
  have hs : Station.Reachable fates s :=
    (Station.Reachable.start ⟨1, .plain, [], false⟩ .allowAll .standard).step (.attach hattach)
  have hstart : Reachable fates s.line ⟨[], .ofChannel s.line.channel, s.machine, []⟩ := .start _ _
  have hfirst := hstart.step (.send [7] rfl rfl)
    |>.step (.use (.look 0 false none) rfl)
  have hsecond := hfirst.step (.send [8] rfl rfl)
    |>.step (.use (.look 1 false none) rfl)
  have hclosed := hsecond.step (.use .close rfl)
    |>.step (.use .wakeSenders rfl) |>.step (.use (.look 1 false none) rfl)
  have hd := hclosed.step (.answer (i := 0) rfl rfl) |>.step (.write (i := 0) rfl rfl)
    |>.step (.answer (i := 1) rfl rfl)
  obtain ⟨-, -, -, -, hsent, -⟩ := send_all_or_nothing hs hd (i := 0) rfl rfl
  obtain ⟨-, -, hrefused, -⟩ := send_all_or_nothing hs hd (i := 1) rfl rfl
  obtain ⟨caller, -, -, hwritten⟩ := hsent rfl
  obtain ⟨sending, hdeeds, -, -, hencode⟩ := hwritten e rfl
  obtain ⟨-, -, hnothing⟩ := hrefused .closed rfl
  exact ⟨fates, s, _, e, hs, hd, rfl, ⟨caller, sending, hdeeds, hencode⟩, rfl, hnothing⟩

end Dispatch

end Relay
