import Mathlib.Data.List.Basic
import Mathlib.Logic.Relation
import Relay.Proofs.Channel.Fifo

namespace Relay.Channel

variable {α : Type}

/-- What a channel may answer to an operation that looks at it. -/
inductive Warrants (c : Channel α) : Call α → Reply α → Prop
  | closed {call : Call α} (h : c.shutsOut call) : Warrants c call (call.refusal .closed)
  | refused {call : Call α} (e : Error) (h : c.stalls call)
      (he : call.patience.refusal? call.atOnce true = some e) : Warrants c call (call.refusal e)
  | sent (value : α) (patience : Patience) (ho : c.closed = false)
      (hr : c.lacksRoom patience = false) : Warrants c (.send value patience) (.sent (.ok ()))
  | received (value : α) (rest : List α) (patience : Patience) (hb : c.buffer = value :: rest) :
      Warrants c (.receive patience) (.received (.ok value))

theorem Patience.refusal?_spent {patience : Patience} {atOnce e : Error} {spent : Bool}
    (h : patience.refusal? atOnce spent = some e) : patience.refusal? atOnce true = some e := by
  cases patience with
  | unlimited => cases h
  | none => exact h
  | timeout limit =>
    cases spent with
    | false => cases h
    | true => exact h
  | token =>
    cases spent with
    | false => cases h
    | true => exact h

theorem Patience.refusal?_ne_closed {patience : Patience} {call : Call α} {spent : Bool} :
    patience.refusal? call.atOnce spent ≠ some .closed := by
  cases patience <;> cases call <;> cases spent <;> nofun

namespace Crowd

variable {s t : Crowd α} {i : Nat} {caller : Caller α} {spent : Bool} {woken : Option Nat}
  {event : Event α}

theorem Looked.outcomes (hc : s.callers[i]? = some caller) (hlook : caller.phase.mayLook = true)
    (h : Looked s i caller spent woken t) : t.outcome? = s.outcome? ∨
    ∃ reply, Warrants s.channel caller.call reply ∧
      t.outcome? = Function.update s.outcome? i (some (caller.call, reply)) := by
  cases h with
  | park _ _ ht =>
    have hquiet : Quiet s (s.setPhase i .parked) :=
      .setPhase hc (Caller.outcome?_of_mayLook hlook) rfl
    exact .inl (ht ▸ hquiet.outcomes)
  | refuse e he ht =>
    refine .inr ⟨caller.call.refusal e, ?_, outcome?_finish hc (ht ▸ rfl)⟩
    obtain ⟨rfl, hout⟩ | ⟨hstalls, hrefusal⟩ := he
    · exact .closed hout
    · exact .refused e hstalls (Patience.refusal?_spent hrefusal)
  | send value patience hcall ho hr ht =>
    refine .inr ⟨.sent (.ok ()), ?_, outcome?_finish hc (ht ▸ rfl)⟩
    rw [hcall]
    exact .sent value patience ho hr
  | receive value rest patience hcall hb ht =>
    refine .inr ⟨.received (.ok value), ?_, (Quiet.wake ht).outcomes.trans (outcome?_finish hc rfl)⟩
    rw [hcall]
    exact .received value rest patience hb

/-- An operation comes to its result once, while it is in progress, and as the channel warrants. -/
theorem step_outcome? (h : s.step event = some t) (i : Nat) : t.outcome? i = s.outcome? i ∨
    (i < s.callers.length ∧ s.outcome? i = none ∧
      ∃ call reply, Warrants s.channel call reply ∧ t.outcome? i = some (call, reply)) := by
  cases event with
  | arrive call =>
    cases h
    exact .inl (congrFun (outcome?_arrive rfl) i)
  | look j spent woken =>
    obtain ⟨caller, hc, hlook, hlooked⟩ := step_look h
    obtain houtcomes | ⟨reply, hwarrants, houtcomes⟩ := hlooked.outcomes hc hlook
    · exact .inl (congrFun houtcomes i)
    · by_cases hij : i = j
      · subst hij
        refine .inr ⟨(List.getElem?_eq_some_iff.1 hc).1, ?_, caller.call, reply, hwarrants, ?_⟩
        · rw [outcome?, hc, Option.bind_some, Caller.outcome?_of_mayLook hlook]
        · rw [houtcomes, Function.update_self]
      · exact .inl (by rw [houtcomes, Function.update_of_ne hij])
  | _ =>
    have hquiet : Quiet s t := by
      apply step_quiet h
      · intro call hevent
        cases hevent
      · intro i spent woken hevent
        cases hevent
    exact .inl (congrFun hquiet.outcomes i)

theorem wake_channel {sender : Bool} (h : s.wake sender woken = some t) : t.channel = s.channel := by
  obtain ⟨-, rfl⟩ | ⟨j, caller, -, -, -, rfl⟩ := wake_cases h <;> rfl

theorem Looked.accepted (hc : s.callers[i]? = some caller) (hlook : caller.phase.mayLook = true)
    (h : Looked s i caller spent woken t) :
    Event.accepted s t (.look i spent woken) = given i (t.outcome? i) := by
  have hunchanged (hbuffer : t.channel.buffer = s.channel.buffer) :
      Event.accepted s t (.look i spent woken) = [] := by
    rw [Event.accepted, hbuffer, List.drop_length, List.map_nil]
  cases h with
  | park _ _ ht =>
    have hquiet : Quiet s (s.setPhase i .parked) :=
      .setPhase hc (Caller.outcome?_of_mayLook hlook) rfl
    have hnone : t.outcome? i = none := by
      rw [ht, hquiet.outcomes, outcome?, hc, Option.bind_some, Caller.outcome?_of_mayLook hlook]
    rw [hunchanged (ht ▸ rfl), hnone]
    rfl
  | refuse e _ ht =>
    have houtcomes : t.outcome? = Function.update s.outcome? i
        (some (caller.call, caller.call.refusal e)) := outcome?_finish hc (ht ▸ rfl)
    rw [hunchanged (ht ▸ rfl), houtcomes, Function.update_self]
    cases caller.call <;> rfl
  | send value patience hcall _ _ ht =>
    have houtcomes : t.outcome? = Function.update s.outcome? i
        (some (caller.call, .sent (.ok ()))) := outcome?_finish hc (ht ▸ rfl)
    have hbuffer : t.channel.buffer = s.channel.buffer ++ [value] := by rw [ht]; rfl
    rw [houtcomes, Function.update_self, hcall, Event.accepted, hbuffer, List.drop_left]
    rfl
  | receive value rest patience hcall hb ht =>
    have hshorter : t.channel.buffer.length ≤ s.channel.buffer.length := by
      rw [wake_channel ht, hb]
      exact Nat.le_succ _
    have houtcomes : t.outcome? = Function.update s.outcome? i
        (some (caller.call, .received (.ok value))) :=
      (Quiet.wake ht).outcomes.trans (outcome?_finish hc rfl)
    rw [houtcomes, Function.update_self, hcall, Event.accepted, List.drop_eq_nil_of_le hshorter]
    rfl

/-- Operations enqueue what they are given when they look, and nothing else does. -/
theorem given_step (h : s.step event = some t) (i : Nat) : given i (t.outcome? i) =
    given i (s.outcome? i) ++ (event.accepted s t).filter (fun e => e.1 == i) := by
  cases event with
  | arrive call =>
    cases h
    rw [outcome?_arrive rfl]
    exact (List.append_nil _).symm
  | look j spent woken =>
    obtain ⟨caller, hc, hlook, hlooked⟩ := step_look h
    rw [hlooked.accepted hc hlook]
    by_cases hij : i = j
    · subst hij
      have hnone : s.outcome? i = none := by
        rw [outcome?, hc, Option.bind_some, Caller.outcome?_of_mayLook hlook]
      have hall : (given i (t.outcome? i)).filter (fun e => e.1 == i) = given i (t.outcome? i) :=
        List.filter_eq_self.2 fun e he => beq_iff_eq.2 (given_fst e he)
      rw [hnone, hall]
      rfl
    · have hother : t.outcome? i = s.outcome? i := by
        obtain houtcomes | ⟨reply, -, houtcomes⟩ := hlooked.outcomes hc hlook
        · rw [houtcomes]
        · rw [houtcomes, Function.update_of_ne hij]
      have hnone : (given j (t.outcome? j)).filter (fun e => e.1 == i) = [] := by
        apply List.filter_eq_nil_iff.2
        intro e he hown
        exact hij (beq_iff_eq.1 hown ▸ given_fst e he)
      rw [hother, hnone, List.append_nil]
  | _ =>
    have hquiet : Quiet s t := by
      apply step_quiet h
      · intro call hevent
        cases hevent
      · intro i spent woken hevent
        cases hevent
    rw [hquiet.outcomes]
    exact (List.append_nil _).symm

theorem exists_wake (s : Crowd α) (sender : Bool) : ∃ woken t, s.wake sender woken = some t := by
  cases hany : s.callers.any (waits sender) with
  | false => exact ⟨none, s, by simp [wake, hany]⟩
  | true =>
    obtain ⟨caller, hmem, hwaits⟩ := List.any_eq_true.1 hany
    obtain ⟨i, hi⟩ := List.mem_iff_getElem?.1 hmem
    exact ⟨some i, s.setPhase i .notified, by simp [wake, hi, hwaits]⟩

theorem step_of_closed (h : s.step event = some t) (hclosed : s.channel.closed = true) :
    t.channel.closed = true ∧ t.channel.buffer <:+ s.channel.buffer := by
  have hsame {c : Channel α} (hc : c = s.channel) :
      c.closed = true ∧ c.buffer <:+ s.channel.buffer := by
    rw [hc]
    exact ⟨hclosed, List.suffix_refl _⟩
  cases event with
  | arrive call =>
    cases h
    exact hsame rfl
  | look i spent woken =>
    obtain ⟨caller, -, -, hlooked⟩ := step_look h
    cases hlooked with
    | park _ _ ht => exact hsame (ht ▸ rfl)
    | refuse _ _ ht => exact hsame (ht ▸ rfl)
    | send _ _ _ ho =>
      rw [hclosed] at ho
      cases ho
    | receive value rest _ _ hb ht =>
      rw [wake_channel ht]
      exact ⟨hclosed, hb ▸ List.suffix_cons value rest⟩
  | notice woken =>
    simp only [step] at h
    split at h
    · cases h
    · have hwoken := wake_channel h
      exact hsame hwoken
  | leave i =>
    obtain ⟨caller, -, -, rfl⟩ := step_leave h
    exact hsame rfl
  | close =>
    simp only [step, hclosed, if_true] at h
    cases h
    exact hsame rfl
  | wakeReceivers =>
    simp only [step] at h
    split at h <;> cases h
    exact hsame rfl
  | wakeSenders =>
    simp only [step] at h
    split at h <;> cases h
    exact hsame rfl

end Crowd

namespace Traffic

def Step (owner : Nat → Nat) (t u : Traffic α) : Prop :=
  ∃ event next, Permits owner t.crowd event ∧ t.crowd.step event = some next ∧
    u = t.advance event next

/-- What threads can cause on a channel in some time. -/
abbrev Run (owner : Nat → Nat) : Traffic α → Traffic α → Prop := Relation.ReflTransGen (Step owner)

variable {owner : Nat → Nat} {c : Channel α} {t u : Traffic α} {i j : Nat} {call : Call α}
  {reply : Reply α}

theorem Step.warranted (h : Step owner t u) (hnone : t.crowd.outcome? i = none)
    (hsome : u.crowd.outcome? i = some (call, reply)) : Warrants t.crowd.channel call reply := by
  obtain ⟨event, next, -, hnext, rfl⟩ := h
  change next.outcome? i = _ at hsome
  obtain hsame | ⟨-, -, call', reply', hwarrants, houtcome⟩ := Crowd.step_outcome? hnext i
  · rw [hsame, hnone] at hsome
    cases hsome
  · rw [hsome] at houtcome
    cases houtcome
    exact hwarrants

theorem Step.outcome? (h : Step owner t u) {outcome : Call α × Reply α}
    (hsome : t.crowd.outcome? i = some outcome) : u.crowd.outcome? i = some outcome := by
  obtain ⟨event, next, -, hnext, rfl⟩ := h
  obtain hsame | ⟨-, hnone, -⟩ := Crowd.step_outcome? hnext i
  · exact hsame.trans hsome
  · rw [hsome] at hnone
    cases hnone

theorem Run.outcome? (h : Run owner t u) {outcome : Call α × Reply α}
    (hsome : t.crowd.outcome? i = some outcome) : u.crowd.outcome? i = some outcome := by
  induction h with
  | refl => exact hsome
  | tail _ hstep ih => exact hstep.outcome? ih

theorem Step.of_closed (h : Step owner t u) (hclosed : t.crowd.channel.closed = true) :
    u.crowd.channel.closed = true ∧ u.accepted = t.accepted ∧
      u.crowd.channel.buffer <:+ t.crowd.channel.buffer := by
  obtain ⟨event, next, -, hnext, rfl⟩ := h
  obtain ⟨hstill, hsuffix⟩ := Crowd.step_of_closed hnext hclosed
  refine ⟨hstill, ?_, hsuffix⟩
  have hnothing : event.accepted t.crowd next = [] := by
    cases event with
    | look i spent woken =>
      rw [Event.accepted, List.drop_eq_nil_of_le hsuffix.length_le, List.map_nil]
    | _ => rfl
  rw [advance, hnothing, List.append_nil]

theorem Run.of_closed (h : Run owner t u) (hclosed : t.crowd.channel.closed = true) :
    u.crowd.channel.closed = true ∧ u.accepted = t.accepted ∧
      u.crowd.channel.buffer <:+ t.crowd.channel.buffer := by
  induction h with
  | refl => exact ⟨hclosed, rfl, List.suffix_refl _⟩
  | tail _ hstep ih =>
    obtain ⟨hstill, haccepted, hsuffix⟩ := ih
    obtain ⟨hstill', haccepted', hsuffix'⟩ := hstep.of_closed hstill
    exact ⟨hstill', haccepted'.trans haccepted, hsuffix'.trans hsuffix⟩

theorem Run.refuses_senders (h : Run owner t u) (hclosed : t.crowd.channel.closed = true)
    {value : α} {patience : Patience} (hnone : t.crowd.outcome? i = none)
    (hsome : u.crowd.outcome? i = some (.send value patience, reply)) :
    reply = .sent (.error .closed) := by
  induction h with
  | refl =>
    rw [hnone] at hsome
    cases hsome
  | @tail v w hrun hstep ih =>
    cases hv : v.crowd.outcome? i with
    | some outcome =>
      rw [hstep.outcome? hv] at hsome
      cases hsome
      exact ih hv
    | none =>
      have hstill := (Run.of_closed hrun hclosed).1
      cases hstep.warranted hv hsome with
      | closed => rfl
      | refused e hstalls =>
        rw [hstalls.1] at hstill
        cases hstill
      | sent _ _ ho =>
        rw [ho] at hstill
        cases hstill

theorem Reachable.concluded (hu : Reachable owner c u)
    (hsome : u.crowd.outcome? i = some (call, reply)) : ∃ t, Reachable owner c t ∧ Run owner t u ∧
      i < t.crowd.callers.length ∧ t.crowd.outcome? i = none ∧
      Warrants t.crowd.channel call reply := by
  induction hu with
  | start => simp [Crowd.outcome?, Crowd.ofChannel] at hsome
  | @step t next event ht hpermits hnext ih =>
    have hstep : Step owner t (t.advance event next) := ⟨event, next, hpermits, hnext, rfl⟩
    obtain hsame | ⟨hi, hnone, -⟩ := Crowd.step_outcome? hnext i
    · obtain ⟨v, hv, hrun, hpending⟩ := ih (hsame.symm.trans hsome)
      exact ⟨v, hv, hrun.tail hstep, hpending⟩
    · exact ⟨t, ht, .single hstep, hi, hnone, hstep.warranted hnone hsome⟩

/-- What an operation is told when it is refused is what holds of the channel at that moment. -/
def Grounds (t : Traffic α) : Call α → Error → Prop
  | .send .., .closed => t.crowd.channel.closed = true
  | .send _ patience, e => t.crowd.channel.closed = false ∧
    t.crowd.channel.buffer.length = t.crowd.channel.capacity ∧ patience.refusal? .full true = some e
  | .receive _, .closed => t.crowd.channel.closed = true ∧
    t.received.map Prod.snd = t.accepted.map Prod.snd
  | .receive patience, e => t.crowd.channel.closed = false ∧ t.crowd.channel.buffer = [] ∧
    patience.refusal? .empty true = some e

theorem Orderly.drained {capacity : Nat} (h : Orderly owner capacity t)
    (hb : t.crowd.channel.buffer = []) : t.received.map Prod.snd = t.accepted.map Prod.snd := by
  rw [h.conserved, hb, List.append_nil]

theorem Orderly.grounds {capacity : Nat} {e : Error} (h : Orderly owner capacity t)
    (hwarrants : Warrants t.crowd.channel call (call.refusal e)) : Grounds t call e := by
  generalize hreply : call.refusal e = reply at hwarrants
  cases hwarrants with
  | closed hout =>
    cases call with
    | send value patience =>
      cases hreply
      exact hout
    | receive patience =>
      cases hreply
      exact ⟨hout.1, h.drained hout.2⟩
  | refused e' hstalls he =>
    have hne : e' ≠ .closed := by
      rintro rfl
      exact Patience.refusal?_ne_closed he
    cases call with
    | send value patience =>
      cases hreply
      rw [Grounds]
      · exact ⟨hstalls.1, full_of_lacksRoom hstalls.2 (h.sized ▸ h.bounded), he⟩
      · exact hne
    | receive patience =>
      cases hreply
      rw [Grounds]
      · exact ⟨hstalls.1, hstalls.2, he⟩
      · exact hne
  | sent => cases hreply
  | received => cases hreply

theorem look_of_buffered {patience : Patience} {phase : Phase α} {value : α} {rest : List α}
    {s : Crowd α} (hc : s.callers[i]? = some ⟨.receive patience, phase⟩)
    (hlook : phase.mayLook = true) (hb : s.channel.buffer = value :: rest) (spent : Bool) :
    (∃ woken next, s.step (.look i spent woken) = some next) ∧
    ∀ woken next, s.step (.look i spent woken) = some next →
      next.outcome? i = some (.receive patience, .received (.ok value)) := by
  have hstep (woken : Option Nat) : s.step (.look i spent woken) =
      { s.setPhase i (.finished (.received (.ok value))) with
        channel := { s.channel with buffer := rest } : Crowd α }.wake true woken := by
    simp only [Crowd.step, hc, hlook, if_true, Crowd.look, attemptReceive, pop?, hb]
  constructor
  · obtain ⟨woken, next, hwoken⟩ := Crowd.exists_wake
      { s.setPhase i (.finished (.received (.ok value))) with
        channel := { s.channel with buffer := rest } } true
    exact ⟨woken, next, (hstep woken).trans hwoken⟩
  · intro woken next hnext
    rw [hstep] at hnext
    rw [(Crowd.Quiet.wake hnext).outcomes, Crowd.outcome?_of_finish hc rfl]

/-- What the operations of a thread came to, in the order in which it made them. -/
def outcomes (t : Traffic α) (owner : Nat → Nat) (thread : Nat) : List (Option (Call α × Reply α)) :=
  (callsOf owner thread t.crowd.callers.length).map t.crowd.outcome?

/-- A thread that does nothing but receive from the channel, as long as that takes. -/
def Iterates (t : Traffic α) (owner : Nat → Nat) (thread : Nat) : Prop :=
  ∀ i ∈ callsOf owner thread t.crowd.callers.length,
    t.crowd.callers[i]?.map Caller.call = some (.receive .unlimited)

def value? : Option (Call α × Reply α) → Option α
  | some (.receive _, .received (.ok value)) => some value
  | _ => none

/-- An iterator ends when it is refused a value. -/
def Ended (t : Traffic α) (owner : Nat → Nat) (thread : Nat) : Prop :=
  ∃ call e, some (call, .received (.error e)) ∈ t.outcomes owner thread

/-- What an iterator yields: the values that it received until it was refused one, or has to wait. -/
def yielded (t : Traffic α) (owner : Nat → Nat) (thread : Nat) : List α :=
  ((t.outcomes owner thread).takeWhile fun outcome => (value? outcome).isSome).filterMap value?

theorem Reachable.drained_of_closed {patience : Patience} (hu : Reachable owner c u)
    (h : u.crowd.outcome? i = some (.receive patience, .received (.error .closed))) :
    u.crowd.channel.closed = true ∧ u.crowd.channel.buffer = [] := by
  obtain ⟨t, -, hrun, -, -, hwarrants⟩ := hu.concluded h
  generalize hreply : (Reply.received (.error .closed) : Reply α) = reply at hwarrants
  cases hwarrants with
  | closed hout =>
    obtain ⟨hstill, -, hsuffix⟩ := hrun.of_closed hout.1
    rw [hout.2] at hsuffix
    exact ⟨hstill, List.suffix_nil.1 hsuffix⟩
  | refused e _ he =>
    cases hreply
    exact (Patience.refusal?_ne_closed he).elim
  | received => cases hreply

theorem Reachable.refused_iterator {e : Error} (hu : Reachable owner c u)
    (h : u.crowd.outcome? i = some (.receive .unlimited, .received (.error e))) : e = .closed := by
  obtain ⟨t, -, -, -, -, hwarrants⟩ := hu.concluded h
  generalize hreply : (Reply.received (.error e) : Reply α) = reply at hwarrants
  cases hwarrants with
  | closed =>
    cases hreply
    rfl
  | refused e' _ he => cases he
  | received => cases hreply

section Iterators

variable {capacity : Nat} {pattern : Pattern} {thread : Nat}

theorem Reachable.nothing_after_closed {patience later : Patience} {value : α}
    (hc : make capacity pattern = .ok c) (hu : Reachable owner c u) (hij : i < j)
    (howner : owner i = owner j)
    (hi : u.crowd.outcome? i = some (.receive patience, .received (.error .closed)))
    (hj : u.crowd.outcome? j = some (.receive later, .received (.ok value))) : False := by
  obtain ⟨t, ht, hrun, hlt, -, hwarrants⟩ := hu.concluded hj
  -- When the later operation came to its value, the thread was done with the earlier one.
  have hdone := (ht.orderly hc).sequential i j hij hlt howner
  obtain ⟨outcome, houtcome⟩ := Option.isSome_iff_exists.1 hdone
  have hsame := hrun.outcome? houtcome
  rw [hi] at hsame
  cases hsame
  have hempty := (ht.drained_of_closed houtcome).2
  generalize hreply : (Reply.received (.ok value) : Reply α) = reply at hwarrants
  cases hwarrants with
  | closed => cases hreply
  | refused => cases hreply
  | received _ rest _ hb =>
    rw [hempty] at hb
    cases hb

theorem Iterates.call_eq (h : Iterates t owner thread)
    (hmem : i ∈ callsOf owner thread t.crowd.callers.length)
    (hi : t.crowd.outcome? i = some (call, reply)) : call = .receive .unlimited := by
  obtain ⟨caller, hc, hfinished⟩ := Option.bind_eq_some_iff.1 hi
  have hcall := h i hmem
  rw [hc] at hcall
  unfold Caller.outcome? at hfinished
  split at hfinished
  · cases hfinished
    exact Option.some.inj hcall
  · cases hfinished

theorem Iterates.values_first (hc : make capacity pattern = .ok c) (ht : Reachable owner c t)
    (h : Iterates t owner thread) : (t.outcomes owner thread).Pairwise fun earlier later =>
      (value? later).isSome → (value? earlier).isSome := by
  have hordered : (callsOf owner thread t.crowd.callers.length).Pairwise (· < ·) :=
    List.pairwise_lt_range.filter _
  apply List.pairwise_map.2
  apply hordered.imp_of_mem
  intro i j hi hj hij hvalue
  obtain ⟨hlt, hj⟩ := mem_callsOf.1 hj
  have howner : owner i = owner j := (mem_callsOf.1 hi).2.trans hj.symm
  have hdone := (ht.orderly hc).sequential i j hij hlt howner
  obtain ⟨⟨call, reply⟩, houtcome⟩ := Option.isSome_iff_exists.1 hdone
  obtain rfl := h.call_eq hi houtcome
  obtain ⟨v, -, -, -, -, hwarrants⟩ := ht.concluded houtcome
  rw [houtcome]
  cases hwarrants with
  | closed =>
    -- What was received later would have been received from a drained channel.
    obtain ⟨value, hvalue⟩ := Option.isSome_iff_exists.1 hvalue
    unfold value? at hvalue
    split at hvalue
    · rename_i hlater
      exact (ht.nothing_after_closed hc hij howner houtcome hlater).elim
    · cases hvalue
  | refused e _ he => cases he
  | received => rfl

theorem filterMap_takeWhile {β γ : Type} {f : β → Option γ} {l : List β}
    (h : l.Pairwise fun a b => (f b).isSome → (f a).isSome) :
    (l.takeWhile fun b => (f b).isSome).filterMap f = l.filterMap f := by
  induction l with
  | nil => rfl
  | cons b l ih =>
    obtain ⟨hfirst, hrest⟩ := List.pairwise_cons.1 h
    cases hb : f b with
    | some value => simp [hb, ih hrest]
    | none =>
      have hnone : l.filterMap f = [] := by
        apply List.filterMap_eq_nil_iff.2
        intro later hlater
        by_contra hne
        have hsome := hfirst later hlater (Option.isSome_iff_ne_none.2 hne)
        rw [hb] at hsome
        cases hsome
      simp [hb, hnone]

theorem map_snd_taken (outcome : Option (Call α × Reply α)) :
    (taken i outcome).map Prod.snd = (value? outcome).toList := by
  unfold taken
  split
  · rfl
  · rename_i hnone
    rw [value?]
    · rfl
    · exact hnone

theorem Iterates.yielded_eq (hc : make capacity pattern = .ok c) (ht : Reachable owner c t)
    (h : Iterates t owner thread) : t.yielded owner thread =
      (t.received.filter fun e => owner e.1 == thread).map Prod.snd := by
  rw [yielded, filterMap_takeWhile (h.values_first hc ht), (ht.orderly hc).taken thread,
    List.map_flatMap, outcomes, List.filterMap_map, List.filterMap_eq_flatMap_toList]
  apply List.flatMap_congr
  intro i _
  exact (map_snd_taken _).symm

theorem flatMap_filter_perm {β : Type} (key : β → Nat) {threads : List Nat} (h : threads.Nodup)
    (log : List β) : ((threads.flatMap fun thread => log.filter fun e => key e == thread) ++
      log.filter fun e => !threads.contains (key e)).Perm log := by
  induction threads with
  | nil => simp
  | cons thread threads ih =>
    obtain ⟨hnot, hnodup⟩ := List.nodup_cons.1 h
    have hown : (log.filter fun e => !threads.contains (key e)).filter (fun e => key e == thread) =
        log.filter fun e => key e == thread := by
      rw [List.filter_filter]
      apply List.filter_congr
      intro e _
      by_cases he : key e = thread <;> simp [he, hnot]
    have hothers : (log.filter fun e => !threads.contains (key e)).filter
        (fun e => !(key e == thread)) = log.filter fun e => !(thread :: threads).contains (key e) := by
      rw [List.filter_filter]
      apply List.filter_congr
      intro e _
      by_cases he : key e = thread <;> simp [he]
    have hsplit := List.filter_append_perm (fun e => key e == thread)
      (log.filter fun e => !threads.contains (key e))
    rw [hown, hothers] at hsplit
    rw [List.flatMap_cons, List.append_assoc]
    exact (List.perm_append_comm_assoc _ _ _).trans ((hsplit.append_left _).trans (ih hnodup))

theorem Iterates.drained (h : Iterates t owner thread) (ht : Reachable owner c t)
    (hended : Ended t owner thread) : t.crowd.channel.buffer = [] := by
  obtain ⟨call, e, hmem⟩ := hended
  obtain ⟨i, hi, hrefused⟩ := List.mem_map.1 hmem
  obtain rfl := h.call_eq hi hrefused
  obtain rfl := ht.refused_iterator hrefused
  exact (ht.drained_of_closed hrefused).2

/-- When one iterator over a channel has ended, all of them together have yielded the accepted values
that nobody else received. -/
theorem yielded_perm {iterators : List Nat} (hc : make capacity pattern = .ok c)
    (ht : Reachable owner c t) (hnodup : iterators.Nodup)
    (h : ∀ thread ∈ iterators, Iterates t owner thread)
    (hended : ∃ thread ∈ iterators, Ended t owner thread) :
    (iterators.flatMap (t.yielded owner) ++
      (t.received.filter fun e => !iterators.contains (owner e.1)).map Prod.snd).Perm
      (t.accepted.map Prod.snd) := by
  obtain ⟨thread, hmem, hend⟩ := hended
  have hshared := (flatMap_filter_perm (fun e : Nat × α => owner e.1) hnodup t.received).map Prod.snd
  have hyielded : iterators.flatMap (t.yielded owner) = (iterators.flatMap fun thread =>
      t.received.filter fun e => owner e.1 == thread).map Prod.snd := by
    rw [List.map_flatMap]
    apply List.flatMap_congr
    intro thread hthread
    exact (h thread hthread).yielded_eq hc ht
  rw [List.map_append, ← hyielded, (ht.orderly hc).drained ((h thread hmem).drained ht hend)] at hshared
  exact hshared

end Iterators

/-- A closed channel takes nothing, and refuses whoever is sending. An operation is refused for what the
channel is like when it comes to its result, and none that receives is refused what is buffered, even if
its token is cancelled. Iterators end when all that was accepted was handed out, to them or to others. -/
theorem drained_when_closed {capacity : Nat} {pattern : Pattern}
    (hc : make capacity pattern = .ok c) (ht : Reachable owner c t) :
    (t.crowd.channel.closed = true → ∀ u, Run owner t u →
      u.crowd.channel.closed = true ∧ u.accepted = t.accepted ∧
      ∀ i value patience reply, t.crowd.outcome? i = none →
        u.crowd.outcome? i = some (.send value patience, reply) → reply = .sent (.error .closed)) ∧
    (∀ u, Step owner t u → ∀ i call e, t.crowd.outcome? i = none →
      u.crowd.outcome? i = some (call, call.refusal e) → Grounds t call e) ∧
    (∀ i patience phase value rest, t.crowd.callers[i]? = some ⟨.receive patience, phase⟩ →
      phase.mayLook = true → t.crowd.channel.buffer = value :: rest → ∀ spent,
      (∃ woken next, t.crowd.step (.look i spent woken) = some next) ∧
      ∀ woken next, t.crowd.step (.look i spent woken) = some next →
        next.outcome? i = some (.receive patience, .received (.ok value))) ∧
    ∀ iterators : List Nat, iterators.Nodup → (∀ thread ∈ iterators, t.Iterates owner thread) →
      (∃ thread ∈ iterators, t.Ended owner thread) →
      (iterators.flatMap (t.yielded owner) ++
        (t.received.filter fun e => !iterators.contains (owner e.1)).map Prod.snd).Perm
        (t.accepted.map Prod.snd) := by
  refine ⟨fun hclosed u hrun => ?_, fun u hstep i call e hnone hsome => ?_, ?_, ?_⟩
  · obtain ⟨hstill, haccepted, -⟩ := hrun.of_closed hclosed
    exact ⟨hstill, haccepted, fun i value patience reply => hrun.refuses_senders hclosed⟩
  · exact (ht.orderly hc).grounds (hstep.warranted hnone hsome)
  · intro i patience phase value rest hcaller hlook hb
    exact look_of_buffered hcaller hlook hb
  · intro iterators
    exact yielded_perm hc ht

/-- An iterator receives the first value. The second is received after the channel was closed, with a
token that is cancelled; then the iterator ends, and a sender that was waiting is refused. -/
theorem drained_when_closed_one_iterator : ∃ (c : Channel Nat) (s t u : Traffic Nat),
    make 1 .plain = .ok c ∧ Reachable (· % 4) c s ∧ Reachable (· % 4) c t ∧ Step (· % 4) t u ∧
    (s.crowd.channel.closed = true ∧ s.crowd.channel.buffer = [8] ∧
      ∀ woken next, s.crowd.step (.look 2 true woken) = some next →
        next.outcome? 2 = some (.receive .token, .received (.ok 8))) ∧
    (t.crowd.outcome? 4 = none ∧
      u.crowd.outcome? 4 = some (.send 9 .unlimited, .sent (.error .closed)) ∧
      Grounds t (.send 9 .unlimited) .closed ∧ u.accepted = t.accepted) ∧
    t.yielded (· % 4) 1 = [7] ∧ ([7] ++ [8]).Perm (t.accepted.map Prod.snd) := by
  have hc : make 1 .plain = .ok (⟨1, .plain, [], false⟩ : Channel Nat) := rfl
  have hstart : Reachable (· % 4) (⟨1, .plain, [], false⟩ : Channel Nat) _ := .start
  have hfirst := hstart.step (.arrive (.send 7 .unlimited)) (by unfold Permits; decide) rfl
    |>.step (.look 0 false none) trivial rfl
  have hnext := hfirst.step (.arrive (.receive .unlimited)) (by unfold Permits; decide) rfl
    |>.step (.look 1 false none) trivial rfl
  have hparked := hnext.step (.arrive (.receive .token)) (by unfold Permits; decide) rfl
    |>.step (.look 2 false none) trivial rfl
  have hsecond := hparked.step (.arrive (.send 8 .unlimited)) (by unfold Permits; decide) rfl
    |>.step (.look 3 false none) trivial rfl
  have hwaiting := hsecond.step (.arrive (.send 9 .unlimited)) (by unfold Permits; decide) rfl
    |>.step (.look 4 false none) trivial rfl
  have hs := hwaiting.step .close trivial rfl |>.step (.notice (some 2)) trivial rfl
  have htaken := hs.step (.look 2 true (some 4)) trivial rfl
  have ht : Reachable (· % 4) _ (⟨⟨⟨1, .plain, [], true⟩,
      [⟨.send 7 .unlimited, .finished (.sent (.ok ()))⟩,
        ⟨.receive .unlimited, .finished (.received (.ok 7))⟩,
        ⟨.receive .token, .finished (.received (.ok 8))⟩,
        ⟨.send 8 .unlimited, .finished (.sent (.ok ()))⟩, ⟨.send 9 .unlimited, .notified⟩,
        ⟨.receive .unlimited, .finished (.received (.error .closed))⟩], 1, true, true⟩,
      [(0, 7), (3, 8)], [(1, 7), (2, 8)]⟩ : Traffic Nat) :=
    htaken.step (.arrive (.receive .unlimited)) (by unfold Permits; decide) rfl
      |>.step (.look 5 false none) trivial rfl
  obtain ⟨-, -, hbuffered, -⟩ := drained_when_closed hc hs
  obtain ⟨hclosed, hrefused, -, hiterators⟩ := drained_when_closed hc ht
  have hgrounds := hrefused _ ⟨.look 4 false none, _, trivial, rfl, rfl⟩ 4 (.send 9 .unlimited) .closed
    rfl rfl
  have hstill := hclosed rfl _ (.single ⟨.look 4 false none, _, trivial, rfl, rfl⟩)
  refine ⟨_, _, _, _, hc, hs, ht, ⟨.look 4 false none, _, trivial, rfl, rfl⟩, ⟨rfl, rfl, ?_⟩,
    ⟨rfl, rfl, hgrounds, hstill.2.1⟩, rfl, ?_⟩
  · exact (hbuffered 2 .token .notified 8 [] rfl rfl rfl true).2
  · refine hiterators [1] (by decide) ?_ ⟨1, by decide, .receive .unlimited, .closed, ?_⟩
    · rw [List.forall_mem_singleton]
      intro i hi
      change i ∈ [1, 5] at hi
      simp only [List.mem_cons, List.not_mem_nil, or_false] at hi
      obtain rfl | rfl := hi <;> rfl
    · exact List.mem_map.2 ⟨5, mem_callsOf.2 ⟨by decide, rfl⟩, rfl⟩

end Traffic

end Relay.Channel
