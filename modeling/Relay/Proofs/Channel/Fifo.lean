import Relay.Proofs.Channel.Steps

namespace Relay.Channel

variable {α : Type}

def given (i : Nat) : Option (Call α × Reply α) → List (Nat × α)
  | some (.send value _, .sent (.ok ())) => [(i, value)]
  | _ => []

/-- What an operation received, given what it came to. -/
def taken (i : Nat) : Option (Call α × Reply α) → List (Nat × α)
  | some (.receive _, .received (.ok value)) => [(i, value)]
  | _ => []

theorem given_fst {i : Nat} {outcome : Option (Call α × Reply α)} :
    ∀ e ∈ given i outcome, e.1 = i := by
  intro e he
  unfold given at he
  split at he
  · rw [List.mem_singleton.1 he]
  · cases he

theorem taken_fst {i : Nat} {outcome : Option (Call α × Reply α)} :
    ∀ e ∈ taken i outcome, e.1 = i := by
  intro e he
  unfold taken at he
  split at he
  · rw [List.mem_singleton.1 he]
  · cases he

/-- A crowd, what its callers enqueued, and what was handed out to them, earliest first. -/
structure Traffic (α : Type) where
  crowd : Crowd α
  accepted : List (Nat × α)
  received : List (Nat × α)

def Event.accepted (before after : Crowd α) : Event α → List (Nat × α)
  | .look i _ _ => (after.channel.buffer.drop before.channel.buffer.length).map (i, ·)
  | _ => []

def Event.received (after : Crowd α) : Event α → List (Nat × α)
  | .look i _ _ => taken i (after.outcome? i)
  | _ => []

/-- The operations that a thread made, in that order, among the first so many. -/
def callsOf (owner : Nat → Nat) (thread calls : Nat) : List Nat :=
  (List.range calls).filter fun i => owner i == thread

theorem callsOf_succ (owner : Nat → Nat) (thread calls : Nat) : callsOf owner thread (calls + 1) =
    callsOf owner thread calls ++ if owner calls == thread then [calls] else [] := by
  rw [callsOf, List.range_succ, List.filter_append, callsOf]
  cases h : owner calls == thread <;> simp [h]

theorem mem_callsOf {owner : Nat → Nat} {thread calls i : Nat} :
    i ∈ callsOf owner thread calls ↔ i < calls ∧ owner i = thread := by
  simp [callsOf]

/-- A log that holds what the operations of each thread did, in the order in which it made them. -/
def Recorded (owner : Nat → Nat) (calls : Nat) (done : Nat → List (Nat × α))
    (log : List (Nat × α)) : Prop :=
  ∀ thread, log.filter (fun e => owner e.1 == thread) =
    (callsOf owner thread calls).flatMap done

section Recorded

variable {owner : Nat → Nat} {calls i : Nat} {done : Nat → List (Nat × α)}
  {log entries : List (Nat × α)}

theorem Recorded.arrive (h : Recorded owner calls done log) (hd : done calls = []) :
    Recorded owner (calls + 1) done log := by
  intro thread
  rw [callsOf_succ, List.flatMap_append, h thread]
  split <;> simp [hd]

theorem flatMap_update (thread : Nat) (hd : done i = [])
    (hlast : ∀ j, i < j → j < calls → owner i ≠ owner j) :
    (callsOf owner thread calls).flatMap (Function.update done i entries) =
      (callsOf owner thread calls).flatMap done ++
        if i < calls ∧ owner i = thread then entries else [] := by
  induction calls with
  | zero => simp [callsOf]
  | succ n ih =>
    rw [callsOf_succ, List.flatMap_append, List.flatMap_append,
      ih fun j hij hj => hlast j hij (Nat.lt_succ_of_lt hj)]
    rcases Nat.lt_trichotomy i n with hin | rfl | hni
    · have howner := hlast n hin (Nat.lt_succ_self n)
      by_cases hn : owner n = thread
      · have hi : owner i ≠ thread := hn ▸ howner
        simp [hn, hi, Function.update_of_ne (Nat.ne_of_gt hin)]
      · simp [hn, hin, Nat.lt_succ_of_lt hin]
    · by_cases hi : owner i = thread <;> simp [hi, hd]
    · have hn : ¬ i < n := Nat.not_lt_of_gt hni
      have hn' : ¬ i < n + 1 := by omega
      by_cases howner : owner n = thread <;>
        simp [hn, hn', howner, Function.update_of_ne (Nat.ne_of_lt hni)]

theorem Recorded.finish (h : Recorded owner calls done log) (hi : i < calls) (hd : done i = [])
    (hlast : ∀ j, i < j → j < calls → owner i ≠ owner j) (he : ∀ e ∈ entries, e.1 = i) :
    Recorded owner calls (Function.update done i entries) (log ++ entries) := by
  intro thread
  have hentries : entries.filter (fun e => owner e.1 == thread) =
      if i < calls ∧ owner i = thread then entries else [] := by
    by_cases howner : owner i = thread
    · rw [if_pos ⟨hi, howner⟩]
      exact List.filter_eq_self.2 fun e hm => by simp [he e hm, howner]
    · rw [if_neg fun hboth => howner hboth.2]
      exact List.filter_eq_nil_iff.2 fun e hm => by simp [he e hm, howner]
  rw [List.filter_append, h thread, hentries, flatMap_update thread hd hlast]

theorem Recorded.call (h : Recorded id calls done log) (hd : ∀ j, calls ≤ j → done j = [])
    (i : Nat) : log.filter (fun e => e.1 == i) = done i := by
  have hupto (n : Nat) : (callsOf id i n).flatMap done = if i < n then done i else [] := by
    induction n with
    | zero => simp [callsOf]
    | succ n ih =>
      rw [callsOf_succ, List.flatMap_append, ih]
      rcases Nat.lt_trichotomy i n with hin | rfl | hni
      · simp [hin, Nat.lt_succ_of_lt hin, Nat.ne_of_gt hin]
      · simp
      · have hn : ¬ i < n := Nat.not_lt_of_gt hni
        have hn' : ¬ i < n + 1 := by omega
        simp [hn, hn', Nat.ne_of_lt hni]
  have hi := h i
  simp only [id_eq, hupto] at hi
  rw [hi]
  split
  · rfl
  · rename_i hbeyond
    exact (hd i (Nat.le_of_not_lt hbeyond)).symm

end Recorded

namespace Traffic

def advance (t : Traffic α) (event : Event α) (next : Crowd α) : Traffic α where
  crowd := next
  accepted := t.accepted ++ event.accepted t.crowd next
  received := t.received ++ event.received next

/-- A thread begins an operation when all those it made before are finished. -/
def Permits (owner : Nat → Nat) (s : Crowd α) : Event α → Prop
  | .arrive _ => ∀ i, i < s.callers.length → owner i = owner s.callers.length →
    (s.outcome? i).isSome
  | _ => True

/-- The traffic that threads can cause on a channel, when each operation belongs to its owner. -/
inductive Reachable (owner : Nat → Nat) (c : Channel α) : Traffic α → Prop
  | start : Reachable owner c ⟨.ofChannel c, [], []⟩
  | step {t : Traffic α} {next : Crowd α} (event : Event α) : Reachable owner c t →
    Permits owner t.crowd event → t.crowd.step event = some next →
    Reachable owner c (t.advance event next)

theorem permits_id (s : Crowd α) (event : Event α) : Permits id s event := by
  cases event with
  | arrive call => exact fun i hi howner => (Nat.ne_of_lt hi howner).elim
  | _ => trivial

theorem Reachable.unbound {owner : Nat → Nat} {c : Channel α} {t : Traffic α}
    (ht : Reachable owner c t) : Reachable id c t := by
  induction ht with
  | start => exact .start
  | step event _ _ hstep ih => exact .step event ih (permits_id _ event) hstep

/-- What the operations of a thread enqueued, in the order in which it made them. -/
def sends (t : Traffic α) (owner : Nat → Nat) (thread : Nat) : List (Nat × α) :=
  (callsOf owner thread t.crowd.callers.length).flatMap fun i => given i (t.crowd.outcome? i)

/-- The accepted values that were handed out, with the operations that enqueued them. -/
def handedOut (t : Traffic α) : List (Nat × α) := t.accepted.take t.received.length

/-- The invariant of the traffic on a channel. -/
structure Orderly (owner : Nat → Nat) (capacity : Nat) (t : Traffic α) : Prop where
  sized : t.crowd.channel.capacity = capacity
  bounded : t.crowd.channel.buffer.length ≤ capacity
  conserved : t.accepted.map Prod.snd = t.received.map Prod.snd ++ t.crowd.channel.buffer
  sequential : ∀ i j, i < j → j < t.crowd.callers.length → owner i = owner j →
    (t.crowd.outcome? i).isSome
  given : Recorded owner t.crowd.callers.length (fun i => given i (t.crowd.outcome? i)) t.accepted
  taken : Recorded owner t.crowd.callers.length (fun i => taken i (t.crowd.outcome? i)) t.received

section Orderly

variable {owner : Nat → Nat} {capacity : Nat} {t : Traffic α} {next : Crowd α} {i : Nat}
  {spent : Bool} {woken : Option Nat}

theorem Orderly.start {pattern : Pattern} {c : Channel α} (hc : make capacity pattern = .ok c) :
    Orderly owner capacity ⟨.ofChannel c, [], []⟩ := by
  unfold make at hc
  split at hc <;> cases hc
  refine ⟨rfl, Nat.zero_le _, rfl, ?_, fun _ => rfl, fun _ => rfl⟩
  exact fun i j _ hj => (Nat.not_lt_zero j hj).elim

theorem Orderly.quiet (h : Orderly owner capacity t) (hq : Crowd.Quiet t.crowd next) :
    Orderly owner capacity ⟨next, t.accepted, t.received⟩ := by
  obtain ⟨hcapacity, hbuffer, hcallers, houtcomes⟩ := hq
  refine ⟨hcapacity.trans h.sized, hbuffer ▸ h.bounded, hbuffer ▸ h.conserved, ?_, ?_, ?_⟩
  · simp only [hcallers, houtcomes]
    exact h.sequential
  · simp only [hcallers, houtcomes]
    exact h.given
  · simp only [hcallers, houtcomes]
    exact h.taken

theorem Orderly.arrive (h : Orderly owner capacity t) {call : Call α}
    (hp : Permits owner t.crowd (.arrive call))
    (hcallers : next.callers = t.crowd.callers ++ [⟨call, .arriving⟩])
    (hchannel : next.channel = t.crowd.channel) :
    Orderly owner capacity ⟨next, t.accepted, t.received⟩ := by
  have hlength : next.callers.length = t.crowd.callers.length + 1 := by simp [hcallers]
  have houtcomes := Crowd.outcome?_arrive hcallers
  have hfresh := t.crowd.outcome?_beyond (Nat.le_refl _)
  refine ⟨hchannel ▸ h.sized, hchannel ▸ h.bounded, hchannel ▸ h.conserved, ?_, ?_, ?_⟩
  · simp only [hlength, houtcomes]
    intro i j hij hj howner
    rcases Nat.lt_succ_iff_lt_or_eq.1 hj with hlt | rfl
    · exact h.sequential i j hij hlt howner
    · exact hp i hij howner
  · simp only [hlength, houtcomes]
    exact h.given.arrive (by simp only [hfresh, Channel.given])
  · simp only [hlength, houtcomes]
    exact h.taken.arrive (by simp only [hfresh, Channel.taken])

/-- A look that ends an operation is all right when the operation tells what became of the buffer. -/
theorem Orderly.finish (h : Orderly owner capacity t) {outcome : Call α × Reply α}
    (hi : i < t.crowd.callers.length) (hnone : t.crowd.outcome? i = none)
    (hsized : next.channel.capacity = t.crowd.channel.capacity)
    (hcallers : next.callers.length = t.crowd.callers.length)
    (houtcomes : next.outcome? = Function.update t.crowd.outcome? i (some outcome))
    (hbounded : next.channel.buffer.length ≤ capacity)
    (hadded : (next.channel.buffer.drop t.crowd.channel.buffer.length).map (i, ·) =
      Channel.given i (some outcome))
    (hconserved : t.crowd.channel.buffer ++ (Channel.given i (some outcome)).map Prod.snd =
      (Channel.taken i (some outcome)).map Prod.snd ++ next.channel.buffer) :
    Orderly owner capacity (t.advance (.look i spent woken) next) := by
  have hlast : ∀ j, i < j → j < t.crowd.callers.length → owner i ≠ owner j := by
    intro j hij hj howner
    have hfinished := h.sequential i j hij hj howner
    rw [hnone] at hfinished
    cases hfinished
  have hdone (f : Nat → Option (Call α × Reply α) → List (Nat × α)) :
      (fun k => f k (next.outcome? k)) =
        Function.update (fun k => f k (t.crowd.outcome? k)) i (f i (some outcome)) := by
    funext k
    rw [houtcomes]
    exact Function.apply_update f t.crowd.outcome? i (some outcome) k
  have hreceived : Event.received next (.look i spent woken) = Channel.taken i (some outcome) := by
    rw [Event.received, houtcomes, Function.update_self]
  have haccepted : Event.accepted t.crowd next (.look i spent woken) =
      Channel.given i (some outcome) := hadded
  refine ⟨hsized.trans h.sized, hbounded, ?_, ?_, ?_, ?_⟩
  · simp only [advance, haccepted, hreceived, List.map_append]
    rw [h.conserved, List.append_assoc, List.append_assoc, hconserved]
  · intro k j hkj hj howner
    simp only [advance, hcallers] at hj
    have hfinished := h.sequential k j hkj hj howner
    simp only [advance, houtcomes]
    by_cases hk : k = i
    · rw [hk, Function.update_self]
      rfl
    · rwa [Function.update_of_ne hk]
  · simp only [advance, haccepted, hcallers, hdone]
    exact h.given.finish hi (by simp only [hnone, Channel.given]) hlast given_fst
  · simp only [advance, hreceived, hcallers, hdone]
    exact h.taken.finish hi (by simp only [hnone, Channel.taken]) hlast taken_fst

theorem Orderly.look (h : Orderly owner capacity t)
    (hstep : t.crowd.step (.look i spent woken) = some next) :
    Orderly owner capacity (t.advance (.look i spent woken) next) := by
  obtain ⟨caller, hc, hlook, hlooked⟩ := Crowd.step_look hstep
  have hi : i < t.crowd.callers.length := (List.getElem?_eq_some_iff.1 hc).1
  have hunfinished := Caller.outcome?_of_mayLook hlook
  have hnone : t.crowd.outcome? i = none := by
    rw [Crowd.outcome?, hc, Option.bind_some, hunfinished]
  cases hlooked with
  | park _ _ ht =>
    subst ht
    have hquiet : Crowd.Quiet t.crowd (t.crowd.setPhase i .parked) := .setPhase hc hunfinished rfl
    have horderly := h.quiet hquiet
    simpa [advance, Event.accepted, Event.received, hquiet.buffer, hquiet.outcomes, hnone,
      Channel.taken] using horderly
  | refuse e _ ht =>
    have hchannel : next.channel = t.crowd.channel := by rw [ht]; rfl
    have hcallers : next.callers = t.crowd.callers.modify i fun c =>
        { c with phase := .finished (caller.call.refusal e) } := by rw [ht]; rfl
    apply h.finish hi hnone (by rw [hchannel]) (by rw [hcallers, List.length_modify])
      (Crowd.outcome?_finish hc hcallers) (hchannel ▸ h.bounded)
    · cases hcall : caller.call <;> simp [hchannel, Call.refusal, Channel.given]
    · cases hcall : caller.call <;> simp [hchannel, Call.refusal, Channel.given, Channel.taken]
  | send value patience hcall _ hroom ht =>
    have hchannel : next.channel = t.crowd.channel.push value := by rw [ht]
    have hcallers : next.callers = t.crowd.callers.modify i fun c =>
        { c with phase := .finished (.sent (.ok ())) } := by rw [ht]; rfl
    have hlt := length_lt_of_room hroom (h.sized ▸ h.bounded)
    apply h.finish hi hnone (by rw [hchannel]; rfl) (by rw [hcallers, List.length_modify])
      (Crowd.outcome?_finish hc hcallers)
    · rw [← h.sized]
      simp only [hchannel, push, List.length_append, List.length_singleton]
      exact hlt
    · simp [hchannel, push, hcall, Channel.given]
    · simp [hchannel, push, hcall, Channel.given, Channel.taken]
  | receive value rest patience hcall hb ht =>
    have hquiet := Crowd.Quiet.wake ht
    have houtcomes := Crowd.outcome?_finish hc (t := { t.crowd.setPhase i
      (.finished (.received (.ok value))) with
        channel := { t.crowd.channel with buffer := rest } }) rfl
    have hbounded := h.bounded
    rw [hb, List.length_cons] at hbounded
    apply h.finish hi hnone hquiet.capacity (hquiet.callers.trans (List.length_modify _ _ _))
      (hquiet.outcomes.trans houtcomes)
    · rw [hquiet.buffer]
      exact Nat.le_of_succ_le hbounded
    · simp [hquiet.buffer, hb, hcall, Channel.given]
    · simp [hquiet.buffer, hb, hcall, Channel.given, Channel.taken]

theorem Orderly.step (h : Orderly owner capacity t) {event : Event α}
    (hp : Permits owner t.crowd event) (hstep : t.crowd.step event = some next) :
    Orderly owner capacity (t.advance event next) := by
  cases event with
  | arrive call =>
    have hnext := Option.some.inj hstep
    have harrived := h.arrive hp (congrArg Crowd.callers hnext).symm
      (congrArg Crowd.channel hnext).symm
    simpa [advance, Event.accepted, Event.received] using harrived
  | look i spent woken => exact h.look hstep
  | _ =>
    have hquiet := h.quiet (Crowd.step_quiet hstep nofun nofun)
    simpa [advance, Event.accepted, Event.received] using hquiet

end Orderly

theorem Reachable.orderly {owner : Nat → Nat} {capacity : Nat} {pattern : Pattern} {c : Channel α}
    {t : Traffic α} (hc : make capacity pattern = .ok c) (ht : Reachable owner c t) :
    Orderly owner capacity t := by
  induction ht with
  | start => exact .start hc
  | step event _ hp hstep ih => exact ih.step hp hstep

/-- Values are handed out in the order in which they were enqueued. Each operation enqueues its value
once if it succeeds, and else never, so that a thread's values come out in the order of its calls. -/
theorem fifo_without_loss {owner : Nat → Nat} {capacity : Nat} {pattern : Pattern} {c : Channel α}
    {t : Traffic α} (hc : make capacity pattern = .ok c) (ht : Reachable owner c t) :
    t.accepted.map Prod.snd = t.received.map Prod.snd ++ t.crowd.channel.buffer ∧
    t.crowd.channel.buffer.length ≤ capacity ∧
    (∀ i, t.accepted.filter (fun e => e.1 == i) = given i (t.crowd.outcome? i) ∧
      t.received.filter (fun e => e.1 == i) = taken i (t.crowd.outcome? i)) ∧
    t.handedOut.map Prod.snd = t.received.map Prod.snd ∧
    ∀ thread, t.handedOut.filter (fun e => owner e.1 == thread) <+: t.sends owner thread := by
  have horderly := ht.orderly hc
  -- The same traffic, with one thread for each operation, tells what each of them did.
  have hcalls := ht.unbound.orderly hc
  refine ⟨horderly.conserved, horderly.bounded, fun i => ⟨?_, ?_⟩, ?_, fun thread => ?_⟩
  · refine hcalls.given.call (fun j hj => ?_) i
    rw [Crowd.outcome?_beyond hj]
    rfl
  · refine hcalls.taken.call (fun j hj => ?_) i
    rw [Crowd.outcome?_beyond hj]
    rfl
  · rw [handedOut, List.map_take, horderly.conserved]
    exact List.take_left' (List.length_map _)
  · rw [sends, ← horderly.given thread]
    exact (List.take_prefix _ _).filter _

theorem fifo_without_loss_two_sends : ∃ (c : Channel Nat) (t : Traffic Nat),
    make 1 .plain = .ok c ∧ Reachable (fun i => i / 2) c t ∧ t.received = [(2, 7)] ∧
    t.accepted.map Prod.snd = [7] ++ [8] := by
  have hc : make 1 .plain = .ok (⟨1, .plain, [], false⟩ : Channel Nat) := rfl
  have hstart : Reachable (fun i => i / 2) (⟨1, .plain, [], false⟩ : Channel Nat) _ := .start
  have hsend := hstart.step (.arrive (.send 7 .unlimited)) (by unfold Permits; decide) rfl
    |>.step (.look 0 false none) trivial rfl
  have hpark := hsend.step (.arrive (.send 8 .unlimited)) (by unfold Permits; decide) rfl
    |>.step (.look 1 false none) trivial rfl
  have hreceive := hpark.step (.arrive (.receive .unlimited)) (by unfold Permits; decide) rfl
    |>.step (.look 2 false (some 1)) trivial rfl
  have ht := hreceive.step (.look 1 false none) trivial rfl
  exact ⟨_, _, hc, ht, rfl, (fifo_without_loss hc ht).1⟩

end Traffic

end Relay.Channel
