import Relay.Bridge.Printing
import Relay.Proofs.Channel.Closing

namespace Relay

variable {α : Type}

namespace Channel

theorem Recorded.perm {calls : Nat} {done : Nat → List (Nat × α)} {log : List (Nat × α)}
    (h : Recorded id calls done log) (hd : ∀ i, calls ≤ i → done i = []) :
    ((List.range calls).flatMap done).Perm log := by
  have hown : done = fun i => log.filter fun e => e.1 == i := by
    funext i
    exact (h.call hd i).symm
  have hothers : (log.filter fun e => !(List.range calls).contains e.1) = [] := by
    apply List.filter_eq_nil_iff.2
    intro e he hbeyond
    have hmem : e ∈ done e.1 := by
      rw [hown]
      exact List.mem_filter.2 ⟨he, beq_self_eq_true e.1⟩
    rw [hd e.1 (by simpa using hbeyond)] at hmem
    cases hmem
  have hnodup : (List.range calls).Nodup := List.nodup_range
  have hshared := Traffic.flatMap_filter_perm Prod.fst hnodup log
  rw [hothers, List.append_nil] at hshared
  rw [hown]
  exact hshared

namespace Crowd

variable {s t : Crowd α} {event : Event α} {i : Nat} {caller : Caller α} {spent : Bool}
  {woken : Option Nat}

theorem reply?_of_outcome? {call : Call α} {reply : Reply α}
    (h : s.outcome? i = some (call, reply)) : s.reply? i = some reply := by
  obtain ⟨caller, hc, hfinished⟩ := Option.bind_eq_some_iff.1 h
  unfold Caller.outcome? at hfinished
  split at hfinished <;> cases hfinished
  rename_i hphase
  obtain ⟨call, phase⟩ := caller
  cases hphase
  rw [reply?, hc]

theorem step_ends (h : s.step event = some t) :
    (t.outcome? = s.outcome? ∧ event.received t = []) ∨
    ∃ i caller spent woken reply, event = .look i spent woken ∧ s.callers[i]? = some caller ∧
      s.outcome? i = none ∧ Looked s i caller spent woken t ∧
      t.outcome? = Function.update s.outcome? i (some (caller.call, reply)) := by
  cases event with
  | arrive call =>
    cases h
    exact .inl ⟨outcome?_arrive rfl, rfl⟩
  | look i spent woken =>
    obtain ⟨caller, hc, hlook, hlooked⟩ := step_look h
    have hnone : s.outcome? i = none := by
      rw [outcome?, hc, Option.bind_some, Caller.outcome?_of_mayLook hlook]
    obtain houtcomes | ⟨reply, -, houtcomes⟩ := hlooked.outcomes hc hlook
    · left
      rw [Event.received, houtcomes, hnone]
      exact ⟨rfl, rfl⟩
    · exact .inr ⟨i, caller, spent, woken, reply, rfl, hc, hnone, hlooked, houtcomes⟩
  | _ =>
    have hquiet : Quiet s t := by
      apply step_quiet h
      · intro call hevent
        cases hevent
      · intro i spent woken hevent
        cases hevent
    exact .inl ⟨hquiet.outcomes, rfl⟩

theorem Looked.refused {e : Error} (h : Looked s i caller spent woken t)
    (hc : s.callers[i]? = some caller)
    (hcall : ∀ patience, caller.call = .receive patience →
      patience = .token ∧ (spent = true → s.channel.closed = true))
    (hreply : t.outcome? i = some (caller.call, .received (.error e))) : e = .closed := by
  cases h with
  | park _ _ ht =>
    rw [ht, outcome?_modify rfl, Function.update_self, hc] at hreply
    cases hreply
  | refuse e' he ht =>
    rw [ht, outcome?_of_finish hc rfl] at hreply
    cases hkind : caller.call with
    | send value patience =>
      rw [hkind] at hreply
      cases hreply
    | receive patience =>
      obtain ⟨rfl, hclosed⟩ := hcall patience hkind
      rw [hkind] at hreply he
      cases hreply
      obtain ⟨he, -⟩ | ⟨hstalls, hrefusal⟩ := he
      · exact he
      · cases spent with
        | false => cases hrefusal
        | true =>
          rw [hstalls.1] at hclosed
          cases hclosed rfl
  | send value patience _ _ _ ht =>
    rw [ht, outcome?_of_finish hc rfl] at hreply
    cases hreply
  | receive value rest patience _ _ ht =>
    rw [(Quiet.wake ht).outcomes, outcome?_of_finish hc rfl] at hreply
    cases hreply

end Crowd

end Channel

namespace Bridge

open Channel (Caller Crowd Reply Traffic)

/-- What a worker received and has not printed yet, given what the operations came to. -/
def Worker.inHand (outcome? : Nat → Option (Channel.Call α × Reply α)) : Worker α → List α
  | .receiving caller => (Traffic.value? (outcome? caller)).toList
  | .printing value => [value]
  | .returned _ => []

def Worker.after : Except Channel.Error α → Worker α
  | .ok value => .printing value
  | .error .closed | .error .interrupted => .returned (.ok ())
  | .error e => .returned (.error e)

theorem Worker.after_ne_receiving {result : Except Channel.Error α} {caller : Nat} :
    Worker.after result ≠ .receiving caller := by
  cases result with
  | ok value => nofun
  | error e => cases e <;> nofun

theorem Worker.inHand_after (outcome? : Nat → Option (Channel.Call α × Reply α))
    (result : Except Channel.Error α) : (Worker.after result).inHand outcome? =
      (Traffic.value? (some (Printing.receiving, .received result))).toList := by
  cases result with
  | ok value => rfl
  | error e => cases e <;> rfl

namespace Printing

variable {c : Channel α} {s t : Printing α} {crew i j : Nat} {event : Event α}

/-- What the workers received and have not printed yet. -/
def inHand (s : Printing α) : List α :=
  (s.workers.map (Worker.inHand s.crowd.outcome?)).flatten

/-- The states of a service with so many workers on a channel. -/
inductive Reachable (c : Channel α) (crew : Nat) : Printing α → Prop
  | start : Reachable c crew (start c crew)
  | step {s t : Printing α} (event : Event α) : Reachable c crew s → s.step event = some t →
    Reachable c crew t

inductive Moved (s : Printing α) : Printing α → Prop
  | channel (event : Channel.Event α) (crowd : Crowd α) (h : s.crowd.step event = some crowd)
    (hcalls : ∀ call ∈ event.calls, call.isSend = true)
    (hreads : ∀ caller spent woken, event = .look caller spent woken → s.reads caller spent = true) :
    Moved s { s with crowd }
  | received {i caller : Nat} {result : Except Channel.Error α}
    (hi : s.workers[i]? = some (.receiving caller))
    (h : s.crowd.reply? caller = some (.received result)) : Moved s (s.setWorker i (.after result))
  | print {i : Nat} {value : α} (crowd : Crowd α) (hi : s.workers[i]? = some (.printing value))
    (h : s.crowd.step (.arrive receiving) = some crowd) :
    Moved s { s with
      crowd, workers := s.workers.set i (.receiving s.crowd.callers.length),
      printed := s.printed ++ [value] }
  | silence (h : s.stage = .serving) : Moved s { s with stage := .quiet }
  | close (crowd : Crowd α) (h : s.crowd.step .close = some crowd) :
    Moved s { s with crowd, stage := .closed }
  | cancel (i : Nat) (h : s.stage = .closed) : Moved s { s with cancelled := s.cancelled.set i true }

theorem conclude_eq (s : Printing α) (i : Nat) (result : Except Channel.Error α) :
    s.conclude i result = s.setWorker i (.after result) := by
  cases result with
  | ok value => rfl
  | error e => cases e <;> rfl

theorem step_moved (h : s.step event = some t) : Moved s t := by
  cases event with
  | arrive value =>
    simp only [step] at h
    split at h
    · obtain ⟨crowd, hcrowd, rfl⟩ := Option.map_eq_some_iff.1 h
      apply Moved.channel _ crowd hcrowd
      · intro call hcall
        rw [List.mem_singleton.1 hcall]
        rfl
      · exact nofun
    · cases h
  | look caller interrupted woken =>
    simp only [step] at h
    split at h
    · rename_i hreads
      obtain ⟨crowd, hcrowd, rfl⟩ := Option.map_eq_some_iff.1 h
      apply Moved.channel _ crowd hcrowd
      · exact nofun
      · rintro _ _ _ ⟨⟩
        exact hreads
    · cases h
  | leave caller =>
    obtain ⟨crowd, hcrowd, rfl⟩ := Option.map_eq_some_iff.1 h
    exact .channel _ crowd hcrowd nofun nofun
  | notice woken =>
    obtain ⟨crowd, hcrowd, rfl⟩ := Option.map_eq_some_iff.1 h
    exact .channel _ crowd hcrowd nofun nofun
  | wakeReceivers =>
    obtain ⟨crowd, hcrowd, rfl⟩ := Option.map_eq_some_iff.1 h
    exact .channel _ crowd hcrowd nofun nofun
  | wakeSenders =>
    obtain ⟨crowd, hcrowd, rfl⟩ := Option.map_eq_some_iff.1 h
    exact .channel _ crowd hcrowd nofun nofun
  | received i =>
    simp only [step] at h
    split at h
    · rename_i caller hi
      split at h <;> cases h
      rename_i result hreply
      rw [conclude_eq]
      exact .received hi hreply
    · cases h
  | print i =>
    simp only [step] at h
    split at h
    · rename_i value hi
      obtain ⟨after, hafter, rfl⟩ := Option.map_eq_some_iff.1 h
      obtain ⟨crowd, hcrowd, rfl⟩ := Option.map_eq_some_iff.1 hafter
      exact .print crowd hi hcrowd
    · cases h
  | silence =>
    simp only [step] at h
    split at h <;> cases h
    rename_i hserving
    exact .silence (of_decide_eq_true (Bool.and_eq_true_iff.1 hserving).1)
  | close =>
    simp only [step] at h
    split at h
    · obtain ⟨after, hafter, rfl⟩ := Option.map_eq_some_iff.1 h
      obtain ⟨crowd, hcrowd, rfl⟩ := Option.map_eq_some_iff.1 hafter
      exact .close crowd hcrowd
    · cases h
  | cancel i =>
    simp only [step] at h
    split at h <;> cases h
    rename_i hclosed
    exact .cancel i hclosed

/-- Who receives for whom, and when a worker may stop. -/
structure Attended (s : Printing α) : Prop where
  known : ∀ w i : Nat, s.workers[w]? = some (.receiving i) → s.crowd.calls[i]? = some receiving
  apart : ∀ v w i : Nat, s.workers[v]? = some (.receiving i) → s.workers[w]? = some (.receiving i) → v = w
  patient : ∀ (i : Nat) patience, s.crowd.calls[i]? = some (.receive patience) → patience = .token
  attended : ∀ (i : Nat) patience, s.crowd.calls[i]? = some (.receive patience) →
    s.crowd.outcome? i = none → ∃ w : Nat, s.workers[w]? = some (.receiving i)
  refused : ∀ i call e, s.crowd.outcome? i = some (call, .received (.error e)) → e = .closed
  returned : ∀ (w : Nat) result, s.workers[w]? = some (.returned result) → result = .ok () ∧
    ∃ i, s.crowd.outcome? i = some (receiving, .received (.error .closed))
  signalled : ∀ w : Nat, s.cancelled[w]? = some true → s.stage = .closed
  shut : s.stage = .closed → s.crowd.channel.closed = true

theorem getElem?_start_workers {worker : Worker α}
    (h : (start c crew).workers[i]? = some worker) : i < crew ∧ worker = .receiving i := by
  rw [start, List.getElem?_map, Option.map_eq_some_iff] at h
  obtain ⟨j, hj, rfl⟩ := h
  obtain ⟨hlt, rfl⟩ := List.getElem?_eq_some_iff.1 hj
  rw [List.getElem_range]
  exact ⟨by simpa using hlt, rfl⟩

theorem start_outcome? (c : Channel α) (crew i : Nat) : (start c crew).crowd.outcome? i = none := by
  apply Option.bind_eq_none_iff.2
  intro caller hcaller
  rw [List.eq_of_mem_replicate (List.mem_of_getElem? hcaller)]
  rfl

theorem Attended.start (c : Channel α) (crew : Nat) : Attended (Printing.start c crew) := by
  have hcalls : (Printing.start c crew).crowd.calls = List.replicate crew receiving :=
    List.map_replicate
  constructor
  case known =>
    intro w i hw
    obtain ⟨hlt, ⟨⟩⟩ := getElem?_start_workers hw
    rw [hcalls, List.getElem?_replicate_of_lt hlt]
  case apart =>
    intro v w i hv hw
    obtain ⟨-, ⟨⟩⟩ := getElem?_start_workers hv
    obtain ⟨-, ⟨⟩⟩ := getElem?_start_workers hw
    rfl
  case patient =>
    intro i patience hi
    rw [hcalls] at hi
    cases List.eq_of_mem_replicate (List.mem_of_getElem? hi)
    rfl
  case attended =>
    intro i patience hi _
    obtain ⟨hlt, -⟩ := List.getElem?_eq_some_iff.1 hi
    rw [hcalls, List.length_replicate] at hlt
    refine ⟨i, ?_⟩
    rw [Printing.start, List.getElem?_map, List.getElem?_range hlt, Option.map_some]
  case refused =>
    intro i call e hi
    rw [start_outcome?] at hi
    cases hi
  case returned =>
    intro w result hw
    obtain ⟨-, ⟨⟩⟩ := getElem?_start_workers hw
  case signalled =>
    intro w hw
    cases List.eq_of_mem_replicate (List.mem_of_getElem? hw)
  case shut => exact nofun

theorem Attended.reads_eq (h : Attended s) {w : Nat} (hw : s.workers[w]? = some (.receiving i))
    (interrupted : Bool) : s.reads i interrupted = (s.cancelled[w]? == some interrupted) := by
  have hworker : s.workerOf? i = some w := by
    obtain ⟨hlt, hreceiving⟩ := List.getElem?_eq_some_iff.1 hw
    apply List.findIdx?_eq_some_iff_getElem.2
    refine ⟨hlt, by simp [hreceiving], ?_⟩
    intro v hv hfirst
    split at hfirst
    · rename_i j hj
      obtain rfl := eq_of_beq hfirst
      have hsame := h.apart v w j (List.getElem?_eq_some_iff.2 ⟨hv.trans hlt, hj⟩) hw
      exact Nat.ne_of_lt hv hsame
    · cases hfirst
  rw [reads, hworker]

theorem Attended.closed_of_reads (h : Attended s) {w : Nat}
    (hw : s.workers[w]? = some (.receiving i)) (hreads : s.reads i true = true) :
    s.crowd.channel.closed = true := by
  rw [h.reads_eq hw] at hreads
  exact h.shut (h.signalled w (eq_of_beq hreads))

/-- Nobody is refused a value before the channel is closed. -/
theorem Attended.refused_after (h : Attended s) {event : Channel.Event α} {crowd : Crowd α}
    (hstep : s.crowd.step event = some crowd)
    (hreads : ∀ caller spent woken, event = .look caller spent woken → s.reads caller spent = true)
    {call : Channel.Call α} {e : Channel.Error}
    (hi : crowd.outcome? i = some (call, .received (.error e))) : e = .closed := by
  obtain ⟨hsame, -⟩ | ⟨j, caller, spent, woken, reply, rfl, hc, hnone, hlooked, houtcomes⟩ :=
    Crowd.step_ends hstep
  · rw [hsame] at hi
    exact h.refused i call e hi
  · by_cases hij : i = j
    · subst hij
      rw [houtcomes, Function.update_self] at hi
      cases hi
      apply hlooked.refused hc
      · intro patience hcall
        have hi : s.crowd.calls[i]? = some (.receive patience) := by
          rw [Crowd.calls, List.getElem?_map, hc, Option.map_some, hcall]
        refine ⟨h.patient i patience hi, ?_⟩
        rintro rfl
        obtain ⟨w, hw⟩ := h.attended i patience hi hnone
        exact h.closed_of_reads hw (hreads i true woken rfl)
      · rw [houtcomes, Function.update_self]
    · rw [houtcomes, Function.update_of_ne hij] at hi
      exact h.refused i call e hi

theorem Attended.channel (h : Attended s) {event : Channel.Event α} {crowd : Crowd α}
    (hstep : s.crowd.step event = some crowd) (hcalls : ∀ call ∈ event.calls, call.isSend = true)
    (hreads : ∀ caller spent woken, event = .look caller spent woken → s.reads caller spent = true) :
    Attended { s with crowd } := by
  have hextended := Crowd.step_calls hstep
  have hstays (i : Nat) {outcome : Channel.Call α × Reply α}
      (hi : s.crowd.outcome? i = some outcome) : crowd.outcome? i = some outcome := by
    obtain hsame | ⟨-, hnone, -⟩ := Crowd.step_outcome? hstep i
    · exact hsame.trans hi
    · rw [hi] at hnone
      cases hnone
  have hold (i : Nat) {patience : Channel.Patience}
      (hi : crowd.calls[i]? = some (.receive patience)) :
      s.crowd.calls[i]? = some (.receive patience) := by
    rw [hextended, List.getElem?_append] at hi
    split at hi
    · exact hi
    · cases hcalls _ (List.mem_of_getElem? hi)
  constructor
  case known =>
    intro w i hw
    have hi := h.known w i hw
    have hlt := (List.getElem?_eq_some_iff.1 hi).1
    change crowd.calls[i]? = _
    rw [hextended, List.getElem?_append_left hlt]
    exact hi
  case apart => exact h.apart
  case patient =>
    intro i patience hi
    exact h.patient i patience (hold i hi)
  case attended =>
    intro i patience hi hnone
    apply h.attended i patience (hold i hi)
    by_contra hsome
    obtain ⟨outcome, houtcome⟩ := Option.ne_none_iff_exists'.1 hsome
    rw [hstays i houtcome] at hnone
    cases hnone
  case refused =>
    intro i call e hi
    exact h.refused_after hstep hreads hi
  case returned =>
    intro w result hw
    obtain ⟨hresult, i, hi⟩ := h.returned w result hw
    exact ⟨hresult, i, hstays i hi⟩
  case signalled => exact h.signalled
  case shut =>
    intro hstage
    exact (Crowd.step_of_closed hstep (h.shut hstage)).1

theorem Attended.outcome?_of_reply? (h : Attended s) {caller : Nat} {reply : Reply α}
    (hi : s.workers[i]? = some (.receiving caller)) (hreply : s.crowd.reply? caller = some reply) :
    s.crowd.outcome? caller = some (receiving, reply) :=
  Crowd.outcome?_of_reply? (h.known i caller hi) hreply

theorem Attended.received (h : Attended s) {caller : Nat} {result : Except Channel.Error α}
    (hi : s.workers[i]? = some (.receiving caller))
    (hreply : s.crowd.outcome? caller = some (receiving, .received result)) :
    Attended (s.setWorker i (.after result)) := by
  have hothers {w j : Nat} (hw : (s.setWorker i (.after result)).workers[w]? = some (.receiving j)) :
      i ≠ w ∧ s.workers[w]? = some (.receiving j) := by
    obtain ⟨-, hafter⟩ | hother := of_getElem?_set hw
    · cases Worker.after_ne_receiving hafter.symm
    · exact hother
  constructor
  case known =>
    intro w j hw
    exact h.known w j (hothers hw).2
  case apart =>
    intro v w j hv hw
    exact h.apart v w j (hothers hv).2 (hothers hw).2
  case patient => exact h.patient
  case attended =>
    intro j patience hj hnone
    obtain ⟨w, hw⟩ := h.attended j patience hj hnone
    refine ⟨w, ?_⟩
    have hne : i ≠ w := by
      rintro rfl
      rw [hi] at hw
      cases hw
      change s.crowd.outcome? caller = none at hnone
      rw [hreply] at hnone
      cases hnone
    change (s.workers.set i _)[w]? = _
    rw [List.getElem?_set_ne hne, hw]
  case refused => exact h.refused
  case returned =>
    intro w outcome hw
    obtain ⟨rfl, hafter⟩ | ⟨-, hw⟩ := of_getElem?_set hw
    · cases result with
      | ok value => cases hafter
      | error e =>
        obtain rfl := h.refused caller receiving e hreply
        cases hafter
        exact ⟨rfl, caller, hreply⟩
    · exact h.returned w outcome hw
  case signalled => exact h.signalled
  case shut => exact h.shut

theorem Attended.fresh (h : Attended s) (w : Nat) :
    s.workers[w]? ≠ some (.receiving s.crowd.callers.length) := by
  intro hw
  have hlt := (List.getElem?_eq_some_iff.1 (h.known w _ hw)).1
  rw [Crowd.calls, List.length_map] at hlt
  exact Nat.lt_irrefl _ hlt

theorem Attended.print (h : Attended s) {value : α} {crowd : Crowd α}
    (hi : s.workers[i]? = some (.printing value))
    (hstep : s.crowd.step (.arrive receiving) = some crowd) :
    Attended { s with
      crowd, workers := s.workers.set i (.receiving s.crowd.callers.length),
      printed := s.printed ++ [value] } := by
  have hcalls : crowd.calls = s.crowd.calls ++ [receiving] := Crowd.step_calls hstep
  have houtcomes : crowd.outcome? = s.crowd.outcome? := by
    cases hstep
    exact Crowd.outcome?_arrive rfl
  have hchannel : crowd.channel = s.crowd.channel := by
    cases hstep
    rfl
  have hlength : s.crowd.callers.length = s.crowd.calls.length := (List.length_map _).symm
  constructor
  case known =>
    intro w j hw
    change crowd.calls[j]? = _
    rw [hcalls]
    obtain ⟨-, hnew⟩ | ⟨-, hw⟩ := of_getElem?_set hw
    · cases hnew
      rw [hlength, List.getElem?_concat_length]
    · have hj := h.known w j hw
      rw [List.getElem?_append_left (List.getElem?_eq_some_iff.1 hj).1, hj]
  case apart =>
    intro v w j hv hw
    obtain ⟨rfl, hnew⟩ | ⟨-, hv⟩ := of_getElem?_set hv
    · obtain ⟨rfl, -⟩ | ⟨-, hw⟩ := of_getElem?_set hw
      · rfl
      · cases hnew
        exact (h.fresh w hw).elim
    · obtain ⟨rfl, hnew⟩ | ⟨-, hw⟩ := of_getElem?_set hw
      · cases hnew
        exact (h.fresh v hv).elim
      · exact h.apart v w j hv hw
  case patient =>
    intro j patience hj
    change crowd.calls[j]? = _ at hj
    rw [hcalls] at hj
    obtain hj | ⟨-, hnew⟩ := of_getElem?_concat hj
    · exact h.patient j patience hj
    · cases hnew
      rfl
  case attended =>
    intro j patience hj hnone
    change crowd.calls[j]? = _ at hj
    change crowd.outcome? j = none at hnone
    rw [hcalls] at hj
    rw [houtcomes] at hnone
    obtain hj | ⟨rfl, -⟩ := of_getElem?_concat hj
    · obtain ⟨w, hw⟩ := h.attended j patience hj hnone
      refine ⟨w, ?_⟩
      have hne : i ≠ w := by
        rintro rfl
        rw [hi] at hw
        cases hw
      change (s.workers.set i _)[w]? = _
      rw [List.getElem?_set_ne hne, hw]
    · refine ⟨i, ?_⟩
      change (s.workers.set i _)[i]? = _
      rw [List.getElem?_set_self (List.getElem?_eq_some_iff.1 hi).1, hlength]
  case refused =>
    intro j call e hj
    change crowd.outcome? j = _ at hj
    rw [houtcomes] at hj
    exact h.refused j call e hj
  case returned =>
    intro w result hw
    obtain ⟨-, hnew⟩ | ⟨-, hw⟩ := of_getElem?_set hw
    · cases hnew
    · obtain ⟨hresult, j, hj⟩ := h.returned w result hw
      refine ⟨hresult, j, ?_⟩
      change crowd.outcome? j = _
      rw [houtcomes, hj]
  case signalled => exact h.signalled
  case shut =>
    intro hstage
    change crowd.channel.closed = true
    rw [hchannel]
    exact h.shut hstage

theorem Attended.silence (h : Attended s) (hserving : s.stage = .serving) :
    Attended { s with stage := .quiet } := by
  refine { h with signalled := fun w hw => ?_, shut := nofun }
  have hclosed := h.signalled w hw
  rw [hserving] at hclosed
  cases hclosed

theorem Attended.close (h : Attended s) {crowd : Crowd α} (hstep : s.crowd.step .close = some crowd) :
    Attended { s with crowd, stage := .closed } := by
  have hchanged : Attended { s with crowd } := h.channel hstep nofun nofun
  refine { hchanged with signalled := fun _ _ => rfl, shut := fun _ => ?_ }
  simp only [Crowd.step] at hstep
  split at hstep <;> cases hstep
  · assumption
  · rfl

theorem Attended.cancel (h : Attended s) (i : Nat) (hclosed : s.stage = .closed) :
    Attended { s with cancelled := s.cancelled.set i true } :=
  { h with signalled := fun _ _ => hclosed }

theorem Attended.moved (h : Attended s) (hmoved : Moved s t) : Attended t := by
  cases hmoved with
  | channel event crowd hstep hcalls hreads => exact h.channel hstep hcalls hreads
  | @received i caller result hi hreply => exact h.received hi (h.outcome?_of_reply? hi hreply)
  | print crowd hi hstep => exact h.print hi hstep
  | silence hserving => exact h.silence hserving
  | close crowd hstep => exact h.close hstep
  | cancel i hclosed => exact h.cancel i hclosed

/-- The traffic on the channel of a service: what it handed out was printed, or is in hand. -/
structure Tracked (s : Printing α) (traffic : Traffic α) : Prop where
  crowd : traffic.crowd = s.crowd
  custody : (traffic.received.map Prod.snd).Perm (s.printed ++ s.inHand)

section Tracked

variable {traffic : Traffic α} {crowd : Crowd α} {value : α} {w : Nat}
  {outcome : Option (Channel.Call α × Reply α)}

theorem inHand_update {worker : Worker α} (hne : worker ≠ .receiving i) :
    worker.inHand (Function.update s.crowd.outcome? i outcome) = worker.inHand s.crowd.outcome? := by
  cases worker with
  | receiving caller =>
    have hother : caller ≠ i := fun heq => hne (congrArg _ heq)
    rw [Worker.inHand, Function.update_of_ne hother, Worker.inHand]
  | _ => rfl

theorem Attended.map_inHand_update (h : Attended s) (hw : s.workers[w]? = some (.receiving i)) :
    s.workers.map (Worker.inHand (Function.update s.crowd.outcome? i outcome)) =
      (s.workers.map (Worker.inHand s.crowd.outcome?)).set w (Traffic.value? outcome).toList := by
  apply List.ext_getElem?
  intro v
  rw [List.getElem?_map, List.getElem?_set, List.length_map, List.getElem?_map]
  by_cases hwv : w = v
  · subst hwv
    rw [if_pos rfl, if_pos (List.getElem?_eq_some_iff.1 hw).1, hw, Option.map_some, Worker.inHand,
      Function.update_self]
  · rw [if_neg hwv]
    cases hv : s.workers[v]? with
    | none => rfl
    | some worker =>
      have hne : worker ≠ .receiving i := by
        rintro rfl
        exact hwv (h.apart w v i hw hv)
      rw [Option.map_some, Option.map_some, inHand_update hne]

theorem Tracked.channel (h : Tracked s traffic) (ha : Attended s) {event : Channel.Event α}
    (hstep : s.crowd.step event = some crowd) :
    Tracked { s with crowd } (traffic.advance event crowd) := by
  refine ⟨rfl, ?_⟩
  have hreceived : (traffic.advance event crowd).received.map Prod.snd =
      traffic.received.map Prod.snd ++ (event.received crowd).map Prod.snd := List.map_append
  rw [hreceived]
  change List.Perm _ (s.printed ++ (s.workers.map (Worker.inHand crowd.outcome?)).flatten)
  obtain ⟨hsame, hnothing⟩ | ⟨i, caller, spent, woken, reply, rfl, hc, hnone, -, houtcomes⟩ :=
    Crowd.step_ends hstep
  · rw [hsame, hnothing, List.map_nil, List.append_nil]
    exact h.custody
  · rw [Channel.Event.received, houtcomes, Function.update_self, Traffic.map_snd_taken]
    have hcall : s.crowd.calls[i]? = some caller.call := by
      rw [Crowd.calls, List.getElem?_map, hc, Option.map_some]
    cases hkind : caller.call with
    | send value patience =>
      have hothers : s.workers.map (Worker.inHand
          (Function.update s.crowd.outcome? i (some (.send value patience, reply)))) =
          s.workers.map (Worker.inHand s.crowd.outcome?) := by
        apply List.map_congr_left
        intro worker hworker
        apply inHand_update
        rintro rfl
        obtain ⟨w, hw⟩ := List.mem_iff_getElem?.1 hworker
        rw [ha.known w i hw, hkind] at hcall
        cases hcall
      change List.Perm (_ ++ []) _
      rw [hothers, List.append_nil]
      exact h.custody
    | receive patience =>
      rw [hkind] at hcall
      obtain ⟨w, hw⟩ := ha.attended i patience hcall hnone
      rw [ha.map_inHand_update hw]
      have hold : (s.workers.map (Worker.inHand s.crowd.outcome?))[w]? = some [] := by
        rw [List.getElem?_map, hw, Option.map_some, Worker.inHand, hnone]
        rfl
      have htaken := flatten_set_perm hold (Traffic.value? (some (.receive patience, reply))).toList
      rw [List.nil_append] at htaken
      apply (h.custody.append_right _).trans
      rw [List.append_assoc]
      exact (List.perm_append_comm.trans htaken.symm).append_left _

theorem Tracked.received (h : Tracked s traffic) {caller : Nat}
    {result : Except Channel.Error α} (hi : s.workers[i]? = some (.receiving caller))
    (hreply : s.crowd.outcome? caller = some (receiving, .received result)) :
    Tracked (s.setWorker i (.after result)) traffic := by
  refine ⟨h.crowd, h.custody.trans (List.Perm.append_left _ ?_)⟩
  have hold : (s.workers.map (Worker.inHand s.crowd.outcome?))[i]? =
      some ((Worker.after result).inHand s.crowd.outcome?) := by
    rw [List.getElem?_map, hi, Option.map_some, Worker.inHand_after, Worker.inHand, hreply]
  have hset := flatten_set_perm hold ((Worker.after result).inHand s.crowd.outcome?)
  change List.Perm _ ((s.workers.set i (.after result)).map (Worker.inHand s.crowd.outcome?)).flatten
  rw [List.map_set]
  exact ((List.perm_append_left_iff _).1 hset).symm

theorem Tracked.print (h : Tracked s traffic) (hi : s.workers[i]? = some (.printing value))
    (hstep : s.crowd.step (.arrive receiving) = some crowd) :
    Tracked { s with
      crowd, workers := s.workers.set i (.receiving s.crowd.callers.length),
      printed := s.printed ++ [value] } (traffic.advance (.arrive receiving) crowd) := by
  refine ⟨rfl, ?_⟩
  have houtcomes : crowd.outcome? = s.crowd.outcome? := by
    cases hstep
    exact Crowd.outcome?_arrive rfl
  have hnew : (Worker.receiving s.crowd.callers.length).inHand crowd.outcome? = ([] : List α) := by
    rw [Worker.inHand, houtcomes, Crowd.outcome?_beyond (Nat.le_refl _)]
    rfl
  have hold : (s.workers.map (Worker.inHand s.crowd.outcome?))[i]? = some [value] := by
    rw [List.getElem?_map, hi]
    rfl
  have hprinted := flatten_set_perm hold []
  change List.Perm ((traffic.received ++ []).map Prod.snd) (s.printed ++ [value] ++
    ((s.workers.set i (.receiving s.crowd.callers.length)).map (Worker.inHand crowd.outcome?)).flatten)
  rw [List.append_nil, List.map_set, hnew, houtcomes, List.append_assoc]
  exact h.custody.trans (hprinted.symm.append_left _)

end Tracked

theorem Tracked.start (c : Channel α) (crew : Nat) : ∃ traffic, Traffic.Reachable id c traffic ∧
    Tracked (Printing.start c crew) traffic := by
  have hcalled : Traffic.Reachable id c ⟨(Printing.start c crew).crowd, [], []⟩ := by
    induction crew with
    | zero => exact .start
    | succ n ih =>
      have hnext := ih.step (.arrive receiving) (Traffic.permits_id _ _) rfl
      rw [Printing.start, List.replicate_succ']
      exact hnext
  refine ⟨_, hcalled, rfl, ?_⟩
  have hnothing : (Printing.start c crew).inHand = [] := by
    apply List.flatten_eq_nil_iff.2
    intro values hvalues
    obtain ⟨worker, hworker, rfl⟩ := List.mem_map.1 hvalues
    obtain ⟨w, hw⟩ := List.mem_iff_getElem?.1 hworker
    obtain ⟨-, rfl⟩ := getElem?_start_workers hw
    rw [Worker.inHand, start_outcome?]
    rfl
  rw [hnothing]
  exact List.Perm.nil

theorem Reachable.tracked (hs : Reachable c crew s) :
    Attended s ∧ ∃ traffic, Traffic.Reachable id c traffic ∧ Tracked s traffic := by
  induction hs with
  | start => exact ⟨.start c crew, Tracked.start c crew⟩
  | step event _ hstep ih =>
    obtain ⟨ha, traffic, ht, htracked⟩ := ih
    have hmoved := step_moved hstep
    refine ⟨ha.moved hmoved, ?_⟩
    have hadvance {event : Channel.Event α} {crowd : Crowd α}
        (h : traffic.crowd.step event = some crowd) :
        Traffic.Reachable id c (traffic.advance event crowd) :=
      ht.step event (Traffic.permits_id _ _) h
    rw [htracked.crowd] at hadvance
    cases hmoved with
    | channel event crowd h => exact ⟨_, hadvance h, htracked.channel ha h⟩
    | received hi hreply =>
      exact ⟨traffic, ht, htracked.received hi (ha.outcome?_of_reply? hi hreply)⟩
    | print crowd hi h => exact ⟨_, hadvance h, htracked.print hi h⟩
    | silence | cancel => exact ⟨traffic, ht, htracked.crowd, htracked.custody⟩
    | close crowd h =>
      have hclosed := htracked.channel ha h
      exact ⟨_, hadvance h, hclosed.crowd, hclosed.custody⟩

theorem accepted_eq (s : Printing α) : s.accepted = (List.range s.crowd.callers.length).flatMap
    fun i => (Channel.given i (s.crowd.outcome? i)).map Prod.snd := by
  rw [accepted, List.filterMap_eq_flatMap_toList, List.flatMap_def, List.flatMap_def]
  apply congrArg
  apply List.ext_getElem
  · rw [List.length_map, List.length_map, List.length_range]
  · intro i hi _
    rw [List.length_map] at hi
    rw [List.getElem_map, List.getElem_map, List.getElem_range, Crowd.outcome?,
      List.getElem?_eq_getElem hi, Option.bind_some]
    generalize s.crowd.callers[i] = caller
    obtain ⟨call, phase⟩ := caller
    cases phase with
    | finished reply =>
      cases call with
      | send value patience =>
        cases reply with
        | sent result => cases result <;> rfl
        | received result => rfl
      | receive patience => rfl
    | _ => cases call <;> rfl

theorem Reachable.conserved {capacity : Nat} {pattern : Channel.Pattern}
    (hc : Channel.make capacity pattern = .ok c) (hs : Reachable c crew s) :
    s.accepted.Perm (s.printed ++ s.inHand ++ s.crowd.channel.buffer) := by
  obtain ⟨-, traffic, ht, hcrowd, hcustody⟩ := hs.tracked
  have horderly := ht.orderly hc
  have haccepted : s.accepted.Perm (traffic.accepted.map Prod.snd) := by
    rw [accepted_eq, ← List.map_flatMap, ← hcrowd]
    apply (horderly.given.perm _).map
    intro i hi
    rw [Crowd.outcome?_beyond hi]
    rfl
  rw [← hcrowd]
  apply haccepted.trans
  rw [horderly.conserved]
  exact hcustody.append_right _

theorem Reachable.length_workers (hs : Reachable c crew s) : s.workers.length = crew := by
  induction hs with
  | start => exact (List.length_map _).trans List.length_range
  | step event _ hstep ih =>
    cases step_moved hstep with
    | received | print => exact (List.length_set ..).trans ih
    | _ => exact ih

/-- A worker that has returned found the channel closed and drained. -/
theorem Reachable.returned {result : Except Channel.Error Unit} (hs : Reachable c crew s)
    (hi : s.workers[i]? = some (.returned result)) : result = .ok () ∧
      s.crowd.channel.closed = true ∧ s.crowd.channel.buffer = [] := by
  obtain ⟨ha, traffic, ht, hcrowd, -⟩ := hs.tracked
  obtain ⟨hresult, caller, hcaller⟩ := ha.returned i result hi
  rw [← hcrowd] at hcaller ⊢
  exact ⟨hresult, ht.drained_of_closed hcaller⟩

theorem Reachable.drained (hs : Reachable c crew s) (hcrew : 0 < crew) (hover : s.isOver = true) :
    s.inHand = [] ∧ s.crowd.channel.buffer = [] := by
  have hreturned (i : Nat) {worker : Worker α} (hi : s.workers[i]? = some worker) :
      ∃ result, worker = .returned result := by
    have hworker := List.all_eq_true.1 hover worker (List.mem_of_getElem? hi)
    cases worker with
    | returned result => exact ⟨result, rfl⟩
    | _ => cases hworker
  constructor
  · apply List.flatten_eq_nil_iff.2
    intro values hvalues
    obtain ⟨worker, hworker, rfl⟩ := List.mem_map.1 hvalues
    obtain ⟨i, hi⟩ := List.mem_iff_getElem?.1 hworker
    obtain ⟨result, rfl⟩ := hreturned i hi
    rfl
  · have hfirst : 0 < s.workers.length := hs.length_workers ▸ hcrew
    have hi := List.getElem?_eq_getElem hfirst
    obtain ⟨result, hresult⟩ := hreturned 0 hi
    rw [hresult] at hi
    exact (hs.returned hi).2.2

/-- A worker that looks takes what is buffered, whether its token is cancelled or not. -/
theorem Reachable.takes (hs : Reachable c crew s) {caller : Nat} {call : Channel.Call α}
    {phase : Channel.Phase α} {value : α} {rest : List α} {interrupted : Bool}
    (hi : s.workers[i]? = some (.receiving caller))
    (hc : s.crowd.callers[caller]? = some ⟨call, phase⟩) (hlook : phase.mayLook = true)
    (hb : s.crowd.channel.buffer = value :: rest) (hreads : s.cancelled[i]? = some interrupted) :
    (∃ woken next, s.step (.look caller interrupted woken) = some next) ∧
    ∀ woken next, s.step (.look caller interrupted woken) = some next →
      ∃ after, next.step (.received i) = some after ∧
        after.workers[i]? = some (.printing value) := by
  obtain ⟨ha, -⟩ := hs.tracked
  have hcall := ha.known i caller hi
  rw [Crowd.calls, List.getElem?_map, hc] at hcall
  cases hcall
  obtain ⟨⟨woken, crowd, hcrowd⟩, houtcome⟩ := Traffic.look_of_buffered hc hlook hb interrupted
  have hstep (woken : Option Nat) : s.step (.look caller interrupted woken) =
      s.onChannel (.look caller interrupted woken) := by
    apply if_pos
    rw [ha.reads_eq hi, hreads]
    exact beq_self_eq_true _
  constructor
  · refine ⟨woken, { s with crowd }, ?_⟩
    rw [hstep, onChannel, hcrowd, Option.map_some]
  · intro woken next hnext
    rw [hstep] at hnext
    obtain ⟨crowd, hcrowd, rfl⟩ := Option.map_eq_some_iff.1 hnext
    have hreply : crowd.reply? caller = some (.received (.ok value)) :=
      Crowd.reply?_of_outcome? (houtcome woken crowd hcrowd)
    refine ⟨{ s with crowd, workers := s.workers.set i (.printing value) }, ?_, ?_⟩
    · simp only [Printing.step, hi, hreply]
      rfl
    · exact List.getElem?_set_self (List.getElem?_eq_some_iff.1 hi).1

/-- What the channel accepted is printed, in the hands of a worker, or buffered. When all workers have
returned it is printed, all of it and nothing twice. None returns before the channel is closed and
drained, and a token that is cancelled keeps no worker from taking what is buffered. -/
theorem drained_gracefully {capacity : Nat} {pattern : Channel.Pattern}
    (hc : Channel.make capacity pattern = .ok c) (hcrew : 0 < crew) (hs : Reachable c crew s) :
    s.accepted.Perm (s.printed ++ s.inHand ++ s.crowd.channel.buffer) ∧
    (s.isOver = true → s.crowd.channel.buffer = [] ∧ s.accepted.Perm s.printed) ∧
    (∀ (i : Nat) result, s.workers[i]? = some (.returned result) →
      result = .ok () ∧ s.crowd.channel.closed = true ∧ s.crowd.channel.buffer = []) ∧
    ∀ (i caller : Nat) call phase value rest interrupted,
      s.workers[i]? = some (.receiving caller) → s.crowd.callers[caller]? = some ⟨call, phase⟩ →
      phase.mayLook = true → s.crowd.channel.buffer = value :: rest →
      s.cancelled[i]? = some interrupted →
      (∃ woken next, s.step (.look caller interrupted woken) = some next) ∧
      ∀ woken next, s.step (.look caller interrupted woken) = some next →
        ∃ after, next.step (.received i) = some after ∧
          after.workers[i]? = some (.printing value) := by
  have hconserved := hs.conserved hc
  refine ⟨hconserved, fun hover => ?_, fun i result => hs.returned, ?_⟩
  · obtain ⟨hhands, hbuffer⟩ := hs.drained hcrew hover
    rw [hhands, hbuffer, List.append_nil, List.append_nil] at hconserved
    exact ⟨hbuffer, hconserved⟩
  · intro i caller call phase value rest interrupted hi hcaller hlook hb hreads
    exact hs.takes hi hcaller hlook hb hreads

/-- Two workers, one of them waiting. The channel is closed with two values in it, and both tokens are
cancelled before anybody looks: the first worker takes both values all the same. -/
theorem drained_gracefully_cancelled_early : ∃ (c : Channel Nat) (s t : Printing Nat),
    Channel.make 2 .plain = .ok c ∧ 0 < 2 ∧ Reachable c 2 s ∧ Reachable c 2 t ∧
    (s.cancelled = [true, true] ∧ s.crowd.channel.buffer = [7, 8] ∧
      ∀ woken next, s.step (.look 0 true woken) = some next →
        ∃ after, next.step (.received 0) = some after ∧ after.workers[0]? = some (.printing 7)) ∧
    t.isOver = true ∧ t.crowd.channel.buffer = [] ∧ t.accepted.Perm t.printed ∧
    t.printed = [7, 8] := by
  have hc : Channel.make 2 .plain = .ok (⟨2, .plain, [], false⟩ : Channel Nat) := rfl
  have hstart : Reachable (⟨2, .plain, [], false⟩ : Channel Nat) 2 _ := .start
  have hsent := hstart.step (.look 1 false none) rfl |>.step (.arrive 7) rfl
    |>.step (.look 2 false none) rfl |>.step (.arrive 8) rfl |>.step (.look 3 false none) rfl
  have hs := hsent.step .silence rfl |>.step .close rfl |>.step (.cancel 0) rfl
    |>.step (.cancel 1) rfl
  have hfirst := hs.step (.look 0 true none) rfl |>.step (.received 0) rfl |>.step (.print 0) rfl
  have hsecond := hfirst.step (.look 4 true none) rfl |>.step (.received 0) rfl
    |>.step (.print 0) rfl
  have ht := hsecond.step .wakeReceivers rfl |>.step (.look 1 true none) rfl
    |>.step (.received 1) rfl |>.step (.look 5 true none) rfl |>.step (.received 0) rfl
  obtain ⟨-, -, -, htakes⟩ := drained_gracefully hc (by decide) hs
  obtain ⟨-, hover, -, -⟩ := drained_gracefully hc (by decide) ht
  obtain ⟨hbuffer, hprinted⟩ := hover rfl
  exact ⟨_, _, _, hc, by decide, hs, ht,
    ⟨rfl, rfl, (htakes 0 0 receiving .arriving 7 [8] true rfl rfl rfl rfl rfl).2⟩, rfl, hbuffer,
    hprinted, rfl⟩

end Printing

end Bridge

end Relay
