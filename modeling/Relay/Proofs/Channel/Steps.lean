import Mathlib.Logic.Function.Basic
import Relay.Channel.Crowd
import Relay.Proofs.Places

namespace Relay.Channel

variable {α : Type}

def Call.refusal : Call α → Error → Reply α
  | .send .., e => .sent (.error e)
  | .receive _, e => .received (.error e)

/-- The refusal of an operation that is not willing to wait. -/
def Call.atOnce : Call α → Error
  | .send .. => .full
  | .receive _ => .empty

/-- An operation that finds an open channel, but no room in it, or no value. -/
def stalls (c : Channel α) : Call α → Prop
  | .send _ patience => c.closed = false ∧ c.lacksRoom patience = true
  | .receive _ => c.closed = false ∧ c.buffer = []

/-- An operation that is too late: the channel is closed, and drained if it is to be read. -/
def shutsOut (c : Channel α) : Call α → Prop
  | .send .. => c.closed = true
  | .receive _ => c.closed = true ∧ c.buffer = []

theorem length_lt_of_room {c : Channel α} {patience : Patience} (h : c.lacksRoom patience = false)
    (hc : c.buffer.length ≤ c.capacity) : c.buffer.length < c.capacity := by
  cases patience with
  | none =>
    have hfull : c.buffer.length ≠ c.capacity := by simpa [lacksRoom, isFull, length] using h
    exact Nat.lt_of_le_of_ne hc hfull
  | _ => exact Nat.lt_of_not_le (of_decide_eq_false h)

theorem full_of_lacksRoom {c : Channel α} {patience : Patience} (h : c.lacksRoom patience = true)
    (hc : c.buffer.length ≤ c.capacity) : c.buffer.length = c.capacity := by
  cases patience with
  | none => exact eq_of_beq h
  | _ => exact Nat.le_antisymm hc (of_decide_eq_true h)

/-- An operation with its result, once it is finished. -/
def Caller.outcome? (caller : Caller α) : Option (Call α × Reply α) :=
  match caller.phase with
  | .finished reply => some (caller.call, reply)
  | _ => none

theorem Caller.outcome?_of_mayLook {caller : Caller α} (h : caller.phase.mayLook = true) :
    caller.outcome? = none := by
  unfold outcome?
  cases hp : caller.phase with
  | finished reply =>
    rw [hp] at h
    cases h
  | _ => rfl

theorem Caller.outcome?_of_isParked {caller : Caller α} (h : caller.phase.isParked = true) :
    caller.outcome? = none := by
  unfold outcome?
  cases hp : caller.phase with
  | finished reply =>
    rw [hp] at h
    cases h
  | _ => rfl

namespace Crowd

variable {s t : Crowd α} {i : Nat} {caller : Caller α} {spent : Bool} {woken : Option Nat}

def outcome? (s : Crowd α) (i : Nat) : Option (Call α × Reply α) :=
  s.callers[i]?.bind Caller.outcome?

theorem outcome?_beyond (h : s.callers.length ≤ i) : s.outcome? i = none := by
  rw [outcome?, List.getElem?_eq_none h, Option.bind_none]

theorem outcome?_modify {f : Caller α → Caller α} (ht : t.callers = s.callers.modify i f) :
    t.outcome? = Function.update s.outcome? i (s.callers[i]?.bind fun c => (f c).outcome?) := by
  funext k
  by_cases hk : k = i
  · subst hk
    rw [Function.update_self, outcome?, ht, List.getElem?_modify_eq]
    cases s.callers[k]? <;> rfl
  · rw [Function.update_of_ne hk, outcome?, ht, List.getElem?_modify_ne _ _ (Ne.symm hk), outcome?]

theorem outcome?_finish {reply : Reply α} (hc : s.callers[i]? = some caller)
    (ht : t.callers = s.callers.modify i fun c => { c with phase := .finished reply }) :
    t.outcome? = Function.update s.outcome? i (some (caller.call, reply)) := by
  rw [outcome?_modify ht, hc]
  rfl

theorem outcome?_of_finish {reply : Reply α} (hc : s.callers[i]? = some caller)
    (ht : t.callers = s.callers.modify i fun c => { c with phase := .finished reply }) :
    t.outcome? i = some (caller.call, reply) := by
  rw [outcome?_finish hc ht, Function.update_self]

theorem outcome?_arrive {call : Call α} (ht : t.callers = s.callers ++ [⟨call, .arriving⟩]) :
    t.outcome? = s.outcome? := by
  funext k
  rw [outcome?, outcome?, ht]
  rcases Nat.lt_or_ge k s.callers.length with hlt | hge
  · rw [List.getElem?_append_left hlt]
  · rw [List.getElem?_append_right hge, List.getElem?_eq_none hge, List.getElem?_singleton]
    split <;> rfl

/-- Nothing happens that an operation could tell its caller about. -/
structure Quiet (s t : Crowd α) : Prop where
  capacity : t.channel.capacity = s.channel.capacity
  buffer : t.channel.buffer = s.channel.buffer
  callers : t.callers.length = s.callers.length
  outcomes : t.outcome? = s.outcome?

theorem Quiet.refl (s : Crowd α) : Quiet s s :=
  ⟨rfl, rfl, rfl, rfl⟩

theorem Quiet.setPhase {phase : Phase α} (hc : s.callers[i]? = some caller)
    (hold : caller.outcome? = none) (hnew : Caller.outcome? ⟨caller.call, phase⟩ = none) :
    Quiet s (s.setPhase i phase) := by
  refine ⟨rfl, rfl, List.length_modify _ _ _, ?_⟩
  have hs : s.outcome? i = none := by rw [outcome?, hc, Option.bind_some, hold]
  have hmodified : (s.setPhase i phase).outcome? = Function.update s.outcome? i none := by
    rw [outcome?_modify rfl, hc, Option.bind_some, hnew]
  rw [hmodified, ← hs, Function.update_eq_self]

theorem wake_cases {sender : Bool} (h : s.wake sender woken = some t) :
    (s.callers.any (waits sender) = false ∧ t = s) ∨ ∃ j caller, s.callers[j]? = some caller ∧
      caller.call.isSend = sender ∧ caller.phase.isParked = true ∧ t = s.setPhase j .notified := by
  cases woken with
  | none =>
    simp only [wake] at h
    split at h <;> cases h
    rename_i hnobody
    exact .inl ⟨Bool.eq_false_iff.2 hnobody, rfl⟩
  | some j =>
    simp only [wake] at h
    split at h <;> cases h
    rename_i hwaits
    obtain ⟨caller, hc, hwait⟩ := (Option.any_eq_true _ _).1 hwaits
    obtain ⟨hside, hparked⟩ := Bool.and_eq_true_iff.1 hwait
    exact .inr ⟨j, caller, hc, eq_of_beq hside, hparked, rfl⟩

theorem Quiet.wake {sender : Bool} (h : s.wake sender woken = some t) : Quiet s t := by
  obtain ⟨-, rfl⟩ | ⟨j, caller, hc, -, hparked, rfl⟩ := wake_cases h
  · exact .refl t
  · exact .setPhase hc (Caller.outcome?_of_isParked hparked) rfl

theorem step_leave (h : s.step (.leave i) = some t) : ∃ caller, s.callers[i]? = some caller ∧
    caller.phase.isParked = true ∧ t = s.setPhase i .arriving := by
  simp only [step] at h
  split at h
  · rename_i caller hc
    split at h <;> cases h
    rename_i hparked
    exact ⟨caller, hc, hparked, rfl⟩
  · cases h

theorem Quiet.wakeAll (s : Crowd α) (sender : Bool) : Quiet s (s.wakeAll sender) := by
  refine ⟨rfl, rfl, List.length_map _, ?_⟩
  funext k
  simp only [outcome?, Crowd.wakeAll, List.getElem?_map]
  cases s.callers[k]? with
  | none => rfl
  | some caller =>
    simp only [Option.map_some, Option.bind_some]
    split
    · rename_i hwait
      simp only [waits, Bool.and_eq_true] at hwait
      rw [Caller.outcome?_of_isParked hwait.2]
      rfl
    · rfl

/-- Whatever happens besides arrivals and looks is only about who looks next. -/
theorem step_quiet {event : Event α} (h : s.step event = some t)
    (ha : ∀ call, event ≠ .arrive call) (hl : ∀ i spent woken, event ≠ .look i spent woken) :
    Quiet s t := by
  cases event with
  | arrive call => exact (ha call rfl).elim
  | look i spent woken => exact (hl i spent woken rfl).elim
  | notice woken =>
    simp only [step] at h
    split at h
    · cases h
    · have hwoken := Quiet.wake h
      exact ⟨hwoken.capacity, hwoken.buffer, hwoken.callers, hwoken.outcomes⟩
  | leave i =>
    obtain ⟨caller, hc, hparked, rfl⟩ := step_leave h
    exact .setPhase hc (Caller.outcome?_of_isParked hparked) rfl
  | close =>
    simp only [step] at h
    split at h <;> cases h
    · exact .refl s
    · exact ⟨rfl, rfl, rfl, rfl⟩
  | wakeReceivers =>
    simp only [step] at h
    split at h <;> cases h
    have hwoken := Quiet.wakeAll s false
    exact ⟨rfl, rfl, hwoken.callers, hwoken.outcomes⟩
  | wakeSenders =>
    simp only [step] at h
    split at h <;> cases h
    have hwoken := Quiet.wakeAll s true
    exact ⟨rfl, rfl, hwoken.callers, hwoken.outcomes⟩

/-- What a look at the channel comes to. -/
inductive Looked (s : Crowd α) (i : Nat) (caller : Caller α) (spent : Bool) (woken : Option Nat)
    (t : Crowd α) : Prop
  | park (hs : s.channel.stalls caller.call)
      (hp : caller.call.patience.refusal? caller.call.atOnce spent = none)
      (ht : t = s.setPhase i .parked)
  | refuse (e : Error)
      (he : (e = .closed ∧ s.channel.shutsOut caller.call) ∨ (s.channel.stalls caller.call ∧
        caller.call.patience.refusal? caller.call.atOnce spent = some e))
      (ht : t = s.setPhase i (.finished (caller.call.refusal e)))
  | send (value : α) (patience : Patience) (hc : caller.call = .send value patience)
      (ho : s.channel.closed = false) (hr : s.channel.lacksRoom patience = false)
      (ht : t = { s.setPhase i (.finished (.sent (.ok ()))) with
        channel := s.channel.push value, notices := s.notices + 1 })
  | receive (value : α) (rest : List α) (patience : Patience) (hc : caller.call = .receive patience)
      (hb : s.channel.buffer = value :: rest)
      (ht : { s.setPhase i (.finished (.received (.ok value))) with
        channel := { s.channel with buffer := rest } }.wake true woken = some t)

theorem look_cases (h : s.look i caller spent woken = some t) : Looked s i caller spent woken t := by
  obtain ⟨call, phase⟩ := caller
  cases call with
  | send value patience =>
    simp only [look, attemptSend] at h
    cases hclosed : s.channel.closed with
    | true =>
      simp only [hclosed, if_true] at h
      cases h
      exact .refuse .closed (.inl ⟨rfl, hclosed⟩) rfl
    | false =>
      cases hroom : s.channel.lacksRoom patience with
      | true =>
        simp only [hclosed, hroom, Bool.false_eq_true, if_false, if_true] at h
        cases hp : patience.refusal? .full spent with
        | none =>
          simp only [hp] at h
          cases h
          exact .park ⟨hclosed, hroom⟩ hp rfl
        | some e =>
          simp only [hp] at h
          cases h
          exact .refuse e (.inr ⟨⟨hclosed, hroom⟩, hp⟩) rfl
      | false =>
        simp only [hclosed, hroom, Bool.false_eq_true, if_false] at h
        cases h
        exact .send value patience rfl hclosed hroom rfl
  | receive patience =>
    simp only [look, attemptReceive, pop?] at h
    cases hb : s.channel.buffer with
    | cons value rest =>
      simp only [hb] at h
      exact .receive value rest patience rfl hb h
    | nil =>
      cases hclosed : s.channel.closed with
      | true =>
        simp only [hb, hclosed, if_true] at h
        cases h
        exact .refuse .closed (.inl ⟨rfl, hclosed, hb⟩) rfl
      | false =>
        simp only [hb, hclosed, Bool.false_eq_true, if_false] at h
        cases hp : patience.refusal? .empty spent with
        | none =>
          simp only [hp] at h
          cases h
          exact .park ⟨hclosed, hb⟩ hp rfl
        | some e =>
          simp only [hp] at h
          cases h
          exact .refuse e (.inr ⟨⟨hclosed, hb⟩, hp⟩) rfl

theorem step_look (h : s.step (.look i spent woken) = some t) : ∃ caller,
    s.callers[i]? = some caller ∧ caller.phase.mayLook = true ∧
      Looked s i caller spent woken t := by
  simp only [step] at h
  split at h
  · rename_i caller hc
    split at h
    · rename_i hlook
      exact ⟨caller, hc, hlook, look_cases h⟩
    · cases h
  · cases h

def calls (s : Crowd α) : List (Call α) := s.callers.map Caller.call

theorem calls_of_outcome? {call : Call α} {reply : Reply α} (h : s.outcome? i = some (call, reply)) :
    s.calls[i]? = some call := by
  obtain ⟨caller, hc, hfinished⟩ := Option.bind_eq_some_iff.1 h
  unfold Caller.outcome? at hfinished
  split at hfinished <;> cases hfinished
  rw [calls, List.getElem?_map, hc, Option.map_some]

theorem outcome?_of_reply? {call : Call α} {reply : Reply α} (hcall : s.calls[i]? = some call)
    (hreply : s.reply? i = some reply) : s.outcome? i = some (call, reply) := by
  unfold reply? at hreply
  split at hreply <;> cases hreply
  rename_i hc
  rw [calls, List.getElem?_map, hc] at hcall
  cases hcall
  rw [outcome?, hc]
  rfl

theorem calls_setPhase (s : Crowd α) (i : Nat) (phase : Phase α) :
    (s.setPhase i phase).calls = s.calls :=
  map_modify fun _ => rfl

theorem calls_wake {sender : Bool} (h : s.wake sender woken = some t) : t.calls = s.calls := by
  obtain ⟨-, rfl⟩ | ⟨j, caller, -, -, -, rfl⟩ := wake_cases h
  · rfl
  · exact calls_setPhase s j .notified

theorem calls_wakeAll (s : Crowd α) (sender : Bool) : (s.wakeAll sender).calls = s.calls := by
  rw [calls, calls, wakeAll, List.map_map]
  apply List.map_congr_left
  intro caller _
  rw [Function.comp_apply]
  split <;> rfl

theorem Looked.calls (h : Looked s i caller spent woken t) : t.calls = s.calls := by
  cases h with
  | park _ _ ht => exact ht ▸ calls_setPhase s i _
  | refuse e _ ht => exact ht ▸ calls_setPhase s i _
  | send value patience _ _ _ ht => exact ht ▸ calls_setPhase s i _
  | receive value rest patience _ _ ht => exact (calls_wake ht).trans (calls_setPhase s i _)

end Crowd

def Event.calls : Event α → List (Call α)
  | .arrive call => [call]
  | _ => []

theorem Crowd.step_calls {s t : Crowd α} {event : Event α} (h : s.step event = some t) :
    t.calls = s.calls ++ event.calls := by
  cases event with
  | arrive call =>
    cases h
    exact List.map_append
  | look i spent woken =>
    obtain ⟨caller, -, -, hlooked⟩ := step_look h
    exact hlooked.calls.trans (List.append_nil _).symm
  | notice woken =>
    simp only [step] at h
    split at h
    · cases h
    · exact (calls_wake h).trans (List.append_nil _).symm
  | leave i =>
    obtain ⟨caller, -, -, rfl⟩ := step_leave h
    exact (calls_setPhase s i .arriving).trans (List.append_nil _).symm
  | close =>
    simp only [step] at h
    split at h <;> cases h <;> exact (List.append_nil _).symm
  | wakeReceivers =>
    simp only [step] at h
    split at h <;> cases h
    exact (calls_wakeAll s false).trans (List.append_nil _).symm
  | wakeSenders =>
    simp only [step] at h
    split at h <;> cases h
    exact (calls_wakeAll s true).trans (List.append_nil _).symm

end Relay.Channel
