import Relay.Net.Distributed
import Relay.Proofs.Channel.Closing
import Relay.Proofs.Net.Frames
import Relay.Proofs.Wire.Encoding

namespace Relay

def Message.Kind.decode? (k : Kind) (payload : Frame.Bytes) : Option k.Value :=
  (k.decode payload).toOption

theorem Message.Kind.decode?_of_ok {k : Kind} {payload : Frame.Bytes} {value : k.Value}
    (h : k.decode payload = .ok value) : k.decode? payload = some value := by
  rw [decode?, h]
  rfl

theorem Message.Kind.decode?_of_error {k : Kind} {payload : Frame.Bytes} {e : Message.Error}
    (h : k.decode payload = .error e) : k.decode? payload = none := by
  rw [decode?, h]
  rfl

theorem Message.Kind.filterMap_decode? (k : Kind) (values : List k.Value) :
    (values.map k.encode).filterMap k.decode? = values := by
  have hdecode : k.decode? ∘ k.encode = some := by
    funext value
    rw [Function.comp_apply, decode?, k.decode_encode]
    rfl
  rw [List.filterMap_map, hdecode, List.filterMap_some]

namespace Channel.Traffic

variable {α : Type} {owner : Nat → Nat} {thread : Nat} {c : Channel α} {t u : Traffic α} {value : α}

/-- The values that a thread put into the channel, earliest first. -/
def entered (t : Traffic α) (owner : Nat → Nat) (thread : Nat) : List α :=
  (t.accepted.filter fun e => owner e.1 == thread).map Prod.snd

/-- A thread is not in the middle of an operation. -/
def Idle (t : Traffic α) (owner : Nat → Nat) (thread : Nat) : Prop :=
  ∀ j ∈ callsOf owner thread t.crowd.callers.length, (t.crowd.outcome? j).isSome

/-- What can come of a thread offering a value to the channel, and whether the channel took it. The thread
sends until its token is cancelled, while other threads do whatever they like. It is answered, or it waits as
the channel is open and full. In the middle of another operation it cannot begin. -/
inductive Offered (owner : Nat → Nat) (thread : Nat) (value : α) (t : Traffic α) :
    Traffic α × Bool → Prop
  | answered {u : Traffic α} {i : Nat} {result : Except Error Unit} (hidle : t.Idle owner thread)
      (hrun : Run owner t u)
      (hcalls : callsOf owner thread u.crowd.callers.length =
        callsOf owner thread t.crowd.callers.length ++ [i])
      (houtcome : u.crowd.outcome? i = some (.send value .token, .sent result)) :
      Offered owner thread value t (u, result.isOk)
  | unanswered {u : Traffic α} {i : Nat} (hidle : t.Idle owner thread) (hrun : Run owner t u)
      (hcalls : callsOf owner thread u.crowd.callers.length =
        callsOf owner thread t.crowd.callers.length ++ [i])
      (hcall : u.crowd.calls[i]? = some (.send value .token)) (hwaits : u.crowd.outcome? i = none)
      (hstalls : u.crowd.channel.stalls (.send value .token)) : Offered owner thread value t (u, false)
  | occupied (h : ¬ t.Idle owner thread) : Offered owner thread value t (t, false)

theorem Reachable.run (ht : Reachable owner c t) (h : Run owner t u) : Reachable owner c u := by
  induction h with
  | refl => exact ht
  | tail _ hstep ih =>
    obtain ⟨event, next, hpermits, hnext, rfl⟩ := hstep
    exact .step event ih hpermits hnext

theorem Offered.reachable {answer : Traffic α × Bool} (h : Offered owner thread value t answer)
    (ht : Reachable owner c t) : Reachable owner c answer.1 := by
  cases h with
  | answered _ hrun | unanswered _ hrun => exact ht.run hrun
  | occupied => exact ht

theorem Run.entered {capacity : Nat} {pattern : Pattern} {i : Nat} (hrun : Run owner t u)
    (hc : make capacity pattern = .ok c) (ht : Reachable owner c t) (hidle : t.Idle owner thread)
    (hcalls : callsOf owner thread u.crowd.callers.length =
      callsOf owner thread t.crowd.callers.length ++ [i]) :
    u.entered owner thread =
      t.entered owner thread ++ (given i (u.crowd.outcome? i)).map Prod.snd := by
  have hbefore := (ht.orderly hc).given thread
  have hafter := ((ht.run hrun).orderly hc).given thread
  rw [hcalls, List.flatMap_append] at hafter
  -- The thread had finished its earlier calls, so that they put nothing more into the channel since.
  have hkept : (callsOf owner thread t.crowd.callers.length).flatMap
      (fun j => given j (u.crowd.outcome? j)) =
        (callsOf owner thread t.crowd.callers.length).flatMap
          fun j => given j (t.crowd.outcome? j) := by
    apply List.flatMap_congr
    intro j hj
    obtain ⟨outcome, hended⟩ := Option.isSome_iff_exists.1 (hidle j hj)
    rw [hended, hrun.outcome? hended]
  rw [hkept, ← hbefore] at hafter
  rw [Traffic.entered, Traffic.entered, hafter, List.map_append]
  simp only [List.flatMap_cons, List.flatMap_nil, List.append_nil]

/-- A value enters the channel when it is taken, and nothing else of its thread does. -/
theorem Offered.entered {capacity : Nat} {pattern : Pattern} {answer : Traffic α × Bool}
    (h : Offered owner thread value t answer) (hc : make capacity pattern = .ok c)
    (ht : Reachable owner c t) : answer.1.entered owner thread =
      t.entered owner thread ++ if answer.2 then [value] else [] := by
  cases h with
  | @answered u i result hidle hrun hcalls houtcome =>
    rw [hrun.entered hc ht hidle hcalls, houtcome]
    cases result <;> rfl
  | unanswered hidle hrun hcalls _ hwaits =>
    rw [hrun.entered hc ht hidle hcalls, hwaits]
    rfl
  | occupied => exact (List.append_nil _).symm

/-- The traffic once a further operation has begun. -/
def arrive (t : Traffic α) (call : Call α) : Traffic α :=
  t.advance (.arrive call) { t.crowd with callers := t.crowd.callers ++ [⟨call, .arriving⟩] }

/-- A thread that has the channel to itself offers a value, and looks at the channel once. -/
def offerAlone (value : α) (t : Traffic α) : Traffic α × Bool :=
  let i := t.crowd.callers.length
  let look : Event α := .look i false none
  let arrived := t.arrive (.send value .token)
  match t.crowd.callers.all (·.outcome?.isSome), arrived.crowd.step look with
  | true, some next => (arrived.advance look next, (next.outcome? i).any fun
    | (_, .sent result) => result.isOk
    | _ => false)
  | _, _ => (t, false)

theorem idle_iff : t.Idle (fun _ => 0) 0 ↔ t.crowd.callers.all (·.outcome?.isSome) = true := by
  rw [List.all_eq_true, List.forall_mem_iff_getElem]
  apply forall_congr'
  intro j
  rw [mem_callsOf, Crowd.outcome?]
  constructor
  · intro hended hj
    simpa [List.getElem?_eq_getElem hj] using hended ⟨hj, rfl⟩
  · intro hended hj
    simpa [List.getElem?_eq_getElem hj.1] using hended hj.1

section Alone

variable {next : Crowd α} (hlook : (t.arrive (.send value .token)).crowd.step
  (.look t.crowd.callers.length false none) = some next)

include hlook

theorem callsOf_alone : callsOf (fun _ => 0) 0 next.callers.length =
    callsOf (fun _ => 0) 0 t.crowd.callers.length ++ [t.crowd.callers.length] ∧
      next.calls[t.crowd.callers.length]? = some (.send value .token) := by
  have hcalls : next.calls = t.crowd.calls ++ [.send value .token] := by
    rw [Crowd.step_calls hlook]
    exact (List.append_nil _).trans List.map_append
  have hlength : next.callers.length = t.crowd.callers.length + 1 := by
    simpa [Crowd.calls] using congrArg List.length hcalls
  constructor
  · exact hlength ▸ callsOf_succ (fun _ => 0) 0 t.crowd.callers.length
  · rw [hcalls, ← List.length_map Caller.call]
    exact List.getElem?_concat_length

theorem run_alone (hidle : t.Idle (fun _ => 0) 0) : Run (fun _ => 0) t
    ((t.arrive (.send value .token)).advance (.look t.crowd.callers.length false none) next) := by
  have harrives : Step (fun _ => 0) t (t.arrive (.send value .token)) :=
    ⟨.arrive (.send value .token), _, fun j hj _ => hidle j (mem_callsOf.2 ⟨hj, rfl⟩), rfl, rfl⟩
  have hlooks : Step (fun _ => 0) (t.arrive (.send value .token))
      ((t.arrive (.send value .token)).advance (.look t.crowd.callers.length false none) next) :=
    ⟨.look t.crowd.callers.length false none, next, trivial, hlook, rfl⟩
  exact .tail (.single harrives) hlooks

end Alone

theorem offerAlone_offered (value : α) (t : Traffic α) :
    Offered (fun _ => 0) 0 value t (offerAlone value t) := by
  have hc : (t.arrive (.send value .token)).crowd.callers[t.crowd.callers.length]? =
      some ⟨.send value .token, .arriving⟩ := List.getElem?_concat_length
  obtain ⟨next, hlook⟩ : ∃ next, (t.arrive (.send value .token)).crowd.step
      (.look t.crowd.callers.length false none) = some next := by
    simp only [Crowd.step, hc, Phase.mayLook, if_true, Crowd.look]
    split <;> exact ⟨_, rfl⟩
  simp only [offerAlone, hlook]
  split
  · rename_i looked hidle hnext
    cases hnext
    have hidle := idle_iff.2 hidle
    have hrun := run_alone hlook hidle
    obtain ⟨howned, hcall⟩ := callsOf_alone hlook
    obtain ⟨caller, hcaller, -, hlooked⟩ := Crowd.step_look hlook
    rw [hc] at hcaller
    cases hcaller
    cases hlooked with
    | park hstalls _ ht =>
      have hwaits : next.outcome? t.crowd.callers.length = none := by
        rw [ht, Crowd.outcome?_modify rfl, Function.update_self, hc]
        rfl
      rw [hwaits]
      exact .unanswered hidle hrun howned hcall hwaits (ht ▸ hstalls)
    | refuse e _ ht =>
      have houtcome := Crowd.outcome?_of_finish hc (congrArg Crowd.callers ht)
      rw [houtcome]
      exact .answered hidle hrun howned houtcome
    | send _ _ hsend _ _ ht =>
      cases hsend
      have houtcome := Crowd.outcome?_of_finish hc (congrArg Crowd.callers ht)
      rw [houtcome]
      exact .answered hidle hrun howned houtcome
    | receive _ _ _ hreceive => cases hreceive
  · rename_i hbusy
    apply Offered.occupied
    intro hidle
    exact hbusy next (idle_iff.1 hidle) rfl

end Channel.Traffic

namespace Net

open Channel (Traffic)

/-- A server whose connection enqueues what arrives. Other threads use the channel as well, and `serve` says
what comes of offering a value to it. -/
structure Server (k : Message.Kind) where
  capacity : Nat
  pattern : Channel.Pattern
  channel : Channel k.Value
  limit : Nat
  owner : Nat → Nat
  thread : Nat
  serve : k.Value → Traffic k.Value → Traffic k.Value × Bool
  made : Channel.make capacity pattern = .ok channel
  offers : ∀ (value : k.Value) (t : Traffic k.Value), Traffic.Reachable owner channel t →
    Traffic.Offered owner thread value t (serve value t)

namespace Server

variable {k : Message.Kind} (server : Server k)

def Reachable (t : Traffic k.Value) : Prop := Traffic.Reachable server.owner server.channel t

/-- What the connection put into the channel, earliest first. -/
def enqueued (t : Traffic k.Value) : List k.Value := t.entered server.owner server.thread

def sink : Sink (Traffic k.Value) := Distributed.sink k server.serve

variable {server} {t : Traffic k.Value}

theorem Reachable.serve (ht : server.Reachable t) (value : k.Value) :
    server.Reachable (server.serve value t).1 ∧ server.enqueued (server.serve value t).1 =
      server.enqueued t ++ if (server.serve value t).2 then [value] else [] :=
  ⟨(server.offers value t ht).reachable ht, (server.offers value t ht).entered server.made ht⟩

theorem sink_of_ok {payload : Frame.Bytes} {value : k.Value} (h : k.decode payload = .ok value) :
    server.sink payload t = server.serve value t := by
  rw [sink, Distributed.sink, h]

theorem sink_of_error {payload : Frame.Bytes} {e : Message.Error} (h : k.decode payload = .error e) :
    server.sink payload t = (t, true) := by
  rw [sink, Distributed.sink, h]

/-- Why a connection goes on no more: its thread waits as the channel is open and full, or is in the middle of
another operation, the channel is closed, or the token of the connection is cancelled. -/
inductive Stopped (server : Server k) (t : Traffic k.Value) : Prop
  | waiting {i : Nat} {value : k.Value} (hi : server.owner i = server.thread)
      (hcall : t.crowd.calls[i]? = some (.send value .token)) (hwaits : t.crowd.outcome? i = none)
      (hstalls : t.crowd.channel.stalls (.send value .token))
  | occupied (h : ¬ t.Idle server.owner server.thread)
  | closed {i : Nat} {value : k.Value} (hclosed : t.crowd.channel.closed = true)
      (h : t.crowd.outcome? i = some (.send value .token, .sent (.error .closed)))
  | cancelled {i : Nat} {value : k.Value}
      (h : t.crowd.outcome? i = some (.send value .token, .sent (.error .interrupted)))

theorem Reachable.stopped {u : Traffic k.Value} {value : k.Value} (ht : server.Reachable t)
    (h : server.serve value t = (u, false)) : Stopped server u := by
  have hoffered := server.offers value t ht
  rw [h] at hoffered
  generalize hanswer : (u, false) = answer at hoffered
  cases hoffered with
  | @unanswered u i _ _ hcalls hcall hwaits hstalls =>
    cases hanswer
    have hi : i ∈ Channel.callsOf server.owner server.thread u.crowd.callers.length := by
      rw [hcalls]
      exact List.mem_append_right _ (List.mem_singleton_self i)
    exact .waiting (Channel.mem_callsOf.1 hi).2 hcall hwaits hstalls
  | occupied hbusy =>
    cases hanswer
    exact .occupied hbusy
  | @answered u i result _ hrun _ houtcome =>
    cases result with
    | ok => cases hanswer
    | error e =>
      cases hanswer
      obtain ⟨v, -, hlater, -, -, hwarrants⟩ := (Traffic.Reachable.run ht hrun).concluded houtcome
      generalize hreply : Channel.Reply.sent (.error e) = reply at hwarrants
      cases hwarrants with
      | closed hclosed =>
        cases hreply
        exact .closed (hlater.of_closed hclosed).1 houtcome
      | refused e _ he =>
        cases he
        cases hreply
        exact .cancelled houtcome
      | sent => cases hreply

/-- What became of a row of values that were offered one after the other: they are in the channel, up to the
first one that it did not take. -/
structure Received (server : Server k) (t : Traffic k.Value) (values : List k.Value)
    (answer : Traffic k.Value × Bool) : Prop where
  reachable : server.Reachable answer.1
  enqueued : ∃ first, server.enqueued answer.1 = server.enqueued t ++ first ∧ first <+: values ∧
    (answer.2 = true → first = values)
  stopped : answer.2 = false → Stopped server answer.1

theorem Reachable.takeAll (ht : server.Reachable t) (payloads : List Frame.Bytes) :
    Received server t (payloads.filterMap k.decode?) (server.sink.takeAll payloads t) := by
  induction payloads generalizing t with
  | nil =>
    have hnothing : server.enqueued t = server.enqueued t ++ [] := (List.append_nil _).symm
    refine ⟨ht, ⟨[], hnothing, List.prefix_refl _, fun _ => rfl⟩, ?_⟩
    intro hstopped
    cases hstopped
  | cons payload payloads ih =>
    rw [Sink.takeAll]
    cases hdecode : k.decode payload with
    | error e =>
      rw [sink_of_error hdecode, List.filterMap_cons_none (k.decode?_of_error hdecode)]
      exact ih ht
    | ok value =>
      obtain ⟨hnext, henqueued⟩ := ht.serve value
      rw [sink_of_ok hdecode, List.filterMap_cons_some (k.decode?_of_ok hdecode)]
      cases hserve : server.serve value t with
      | mk u more =>
        rw [hserve] at hnext henqueued
        cases more with
        | true =>
          obtain ⟨hlast, ⟨first, hfirst, hprefix, hall⟩, hstopped⟩ := ih hnext
          refine ⟨hlast, ⟨value :: first, ?_, (List.prefix_cons_inj value).2 hprefix, ?_⟩, hstopped⟩
          · rw [hfirst, henqueued]
            exact List.append_assoc _ _ _
          · exact fun hmore => congrArg _ (hall hmore)
        | false =>
          refine ⟨hnext, ⟨[], henqueued, List.nil_prefix, ?_⟩, fun _ => ht.stopped hserve⟩
          intro hmore
          cases hmore

end Server

def Server.alone {k : Message.Kind} (capacity : Nat) (pattern : Channel.Pattern) (limit : Nat)
    (h : 0 < capacity) : Server k where
  capacity := capacity
  pattern := pattern
  channel := ⟨capacity, pattern, [], false⟩
  limit := limit
  owner _ := 0
  thread := 0
  serve := Traffic.offerAlone
  made := if_neg h.ne'
  offers value t _ := t.offerAlone_offered value

end Net

end Relay
