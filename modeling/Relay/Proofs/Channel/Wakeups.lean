import Relay.Proofs.Channel.Steps
import Relay.Proofs.Places

namespace Relay.Channel

variable {α : Type}

def Phase.isNotified : Phase α → Bool
  | .notified => true
  | _ => false

namespace Crowd

/-- Whether a caller is about to look again, as a sender or as a receiver. -/
def heeds (sender : Bool) (caller : Caller α) : Bool :=
  caller.call.isSend == sender && caller.phase.isNotified

def waiting (s : Crowd α) (sender : Bool) : Nat := s.callers.countP (waits sender)

def notified (s : Crowd α) (sender : Bool) : Nat := s.callers.countP (heeds sender)

/-- How many senders, or receivers, could go on. -/
def supply (s : Crowd α) : (sender : Bool) → Nat
  | true => s.channel.capacity - s.channel.length
  | false => s.channel.length

/-- The notifications still due to single senders, or receivers: senders get theirs under the lock. -/
def due (s : Crowd α) : (sender : Bool) → Nat
  | true => 0
  | false => s.notices

def closing (s : Crowd α) : (sender : Bool) → Bool
  | true => s.closingSenders
  | false => s.closingReceivers

inductive Reachable (c : Channel α) : Crowd α → Prop
  | start : Reachable c (.ofChannel c)
  | step {s t : Crowd α} (event : Event α) : Reachable c s → s.step event = some t → Reachable c t

variable {s t : Crowd α} {i : Nat} {caller : Caller α} {spent : Bool} {woken : Option Nat}

theorem waiting_setPhase (phase : Phase α) (sender : Bool) (hc : s.callers[i]? = some caller) :
    (s.setPhase i phase).waiting sender + (waits sender caller).toNat =
      s.waiting sender + (waits sender ⟨caller.call, phase⟩).toNat :=
  countP_modify hc

theorem notified_setPhase (phase : Phase α) (sender : Bool) (hc : s.callers[i]? = some caller) :
    (s.setPhase i phase).notified sender + (heeds sender caller).toNat =
      s.notified sender + (heeds sender ⟨caller.call, phase⟩).toNat :=
  countP_modify hc

theorem waiting_setPhase_le {phase : Phase α} (sender : Bool) (hc : s.callers[i]? = some caller)
    (hphase : phase.isParked = false) :
    (s.setPhase i phase).waiting sender ≤ s.waiting sender := by
  have hwaiting := waiting_setPhase phase sender hc
  rw [waits, waits, hphase, Bool.and_false] at hwaiting
  exact Nat.le.intro hwaiting

theorem notified_setPhase_parked (phase : Phase α) (sender : Bool)
    (hc : s.callers[i]? = some caller) (hparked : caller.phase.isParked = true) :
    (s.setPhase i phase).notified sender =
      s.notified sender + (heeds sender ⟨caller.call, phase⟩).toNat := by
  have hnotified := notified_setPhase phase sender hc
  have hasleep : caller.phase.isNotified = false := by
    cases hp : caller.phase with
    | parked => rfl
    | _ =>
      rw [hp] at hparked
      cases hparked
  rw [heeds, hasleep, Bool.and_false] at hnotified
  exact hnotified

/-- What an operation does to the counts when it looks: it may use up a notification of its own side. -/
structure Passed (s t : Crowd α) (caller : Caller α) : Prop where
  waiting (sender : Bool) : caller.call.isSend ≠ sender → t.waiting sender = s.waiting sender
  notified (sender : Bool) : caller.call.isSend ≠ sender → t.notified sender = s.notified sender
  heeded (sender : Bool) : s.notified sender ≤ t.notified sender + 1

theorem Passed.setPhase {phase : Phase α} (hc : s.callers[i]? = some caller) :
    Passed s (s.setPhase i phase) caller := by
  refine ⟨fun sender hne => ?_, fun sender hne => ?_, fun sender => ?_⟩
  · have hwaiting := waiting_setPhase phase sender hc
    simp only [waits, beq_false_of_ne hne, Bool.false_and] at hwaiting
    exact hwaiting
  · have hnotified := notified_setPhase phase sender hc
    simp only [heeds, beq_false_of_ne hne, Bool.false_and] at hnotified
    exact hnotified
  · have hnotified := notified_setPhase phase sender hc
    have hone := Bool.toNat_le (heeds sender caller)
    omega

/-- A notification to one sender, or receiver, leaves everything else alone. -/
structure Woken (sender : Bool) (s t : Crowd α) : Prop where
  channel : t.channel = s.channel
  due : t.due = s.due
  closing : t.closing = s.closing
  waiting (other : Bool) : t.waiting other ≤ s.waiting other
  others : t.notified (!sender) = s.notified (!sender)
  one : t.waiting sender = 0 ∨ t.notified sender = s.notified sender + 1

theorem Woken.of_wake {sender : Bool} (h : s.wake sender woken = some t) : Woken sender s t := by
  obtain ⟨hnobody, rfl⟩ | ⟨j, caller, hc, hside, hparked, rfl⟩ := wake_cases h
  · refine ⟨rfl, rfl, rfl, fun _ => Nat.le_refl _, rfl, .inl ?_⟩
    apply List.countP_eq_zero.2
    intro caller hcaller hwaits
    exact Bool.false_ne_true (hnobody.symm.trans (List.any_eq_true.2 ⟨caller, hcaller, hwaits⟩))
  · refine ⟨rfl, rfl, rfl, fun other => waiting_setPhase_le other hc rfl, ?_, .inr ?_⟩
    · have hnotified := notified_setPhase_parked .notified (!sender) hc hparked
      simpa [heeds, hside] using hnotified
    · have hnotified := notified_setPhase_parked .notified sender hc hparked
      rw [heeds, hside, beq_self_eq_true] at hnotified
      exact hnotified

theorem waiting_wakeAll (s : Crowd α) (sender : Bool) : (s.wakeAll sender).waiting sender = 0 := by
  apply List.countP_eq_zero.2
  intro caller hcaller hwaits
  obtain ⟨old, -, rfl⟩ := List.mem_map.1 hcaller
  split at hwaits
  · simp [waits, Phase.isParked] at hwaits
  · rename_i hidle
    exact hidle hwaits

theorem countP_wakeAll_other (s : Crowd α) {sender other : Bool} (hne : other ≠ sender)
    {p : Caller α → Bool} (hp : ∀ caller, p caller = true → caller.call.isSend = other) :
    (s.wakeAll sender).callers.countP p = s.callers.countP p := by
  have hfalse (caller : Caller α) (hside : caller.call.isSend = sender) : p caller = false := by
    rw [Bool.eq_false_iff]
    intro htrue
    exact hne ((hp caller htrue).symm.trans hside)
  rw [wakeAll, List.countP_map]
  apply List.countP_congr
  intro caller _
  simp only [Function.comp_apply]
  split
  · rename_i hwaits
    have hside := eq_of_beq (Bool.and_eq_true_iff.1 hwaits).1
    rw [hfalse caller hside, hfalse ⟨caller.call, .notified⟩ hside]
  · rfl

/-- The invariant of a channel and its users. -/
structure Promised (s : Crowd α) : Prop where
  bounded : s.channel.length ≤ s.channel.capacity
  served (sender : Bool) : (sender = true → s.channel.closed = false) → 0 < s.waiting sender →
    s.supply sender ≤ s.notified sender + s.due sender
  dismissed (sender : Bool) : s.channel.closed = true → 0 < s.waiting sender →
    s.closing sender = true

theorem Promised.start {capacity : Nat} {pattern : Pattern} {c : Channel α}
    (hc : make capacity pattern = .ok c) : Promised (.ofChannel c) := by
  unfold make at hc
  split at hc <;> cases hc
  refine ⟨Nat.zero_le _, fun sender _ hwaiting => ?_, fun sender _ hwaiting => ?_⟩
  · exact (Nat.not_lt_zero 0 hwaiting).elim
  · exact (Nat.not_lt_zero 0 hwaiting).elim

/-- Whoever parks, or is refused, found nothing that it could have taken. -/
theorem supply_eq_zero_of_stalls (h : s.channel.stalls caller.call) :
    s.supply caller.call.isSend = 0 := by
  obtain ⟨call, phase⟩ := caller
  cases call with
  | send value patience =>
    cases patience with
    | none =>
      have hfull : s.channel.length = s.channel.capacity := eq_of_beq h.2
      simp only [supply, Call.isSend, hfull, Nat.sub_self]
    | _ =>
      have hfull : s.channel.capacity ≤ s.channel.length := of_decide_eq_true h.2
      exact Nat.sub_eq_zero_of_le hfull
  | receive patience =>
    simp only [supply, Call.isSend, length, h.2, List.length_nil]

theorem stalls_open {c : Channel α} {call : Call α} (h : c.stalls call) : c.closed = false := by
  cases call with
  | send value patience => exact h.1
  | receive patience => exact h.1

theorem supply_eq_zero_of_shutsOut (h : s.channel.shutsOut caller.call)
    (hopen : caller.call.isSend = true → s.channel.closed = false) :
    s.supply caller.call.isSend = 0 := by
  obtain ⟨call, phase⟩ := caller
  cases call with
  | send value patience => exact (Bool.false_ne_true ((hopen rfl).symm.trans h)).elim
  | receive patience => simp only [supply, Call.isSend, length, h.2, List.length_nil]

theorem Promised.pass {phase : Phase α} (h : Promised s) (hc : s.callers[i]? = some caller)
    (hsupply : (caller.call.isSend = true → s.channel.closed = false) →
      s.supply caller.call.isSend = 0)
    (hwaiting : s.channel.closed = true → ∀ sender,
      (s.setPhase i phase).waiting sender = s.waiting sender) :
    Promised (s.setPhase i phase) := by
  have hpassed : Passed s (s.setPhase i phase) caller := .setPhase hc
  refine ⟨h.bounded, fun sender hopen hparked => ?_, fun sender hclosed hparked => ?_⟩
  · by_cases hside : caller.call.isSend = sender
    · subst hside
      exact (hsupply hopen).trans_le (Nat.zero_le _)
    · rw [hpassed.waiting sender hside] at hparked
      rw [hpassed.notified sender hside]
      exact h.served sender hopen hparked
  · rw [hwaiting hclosed sender] at hparked
    exact h.dismissed sender hclosed hparked

theorem waiting_finish {reply : Reply α} (sender : Bool) (hc : s.callers[i]? = some caller)
    (hlook : caller.phase.mayLook = true) :
    (s.setPhase i (.finished reply)).waiting sender = s.waiting sender := by
  have hwaiting := waiting_setPhase (.finished reply) sender hc
  have hawake : caller.phase.isParked = false := by
    cases hp : caller.phase with
    | parked =>
      rw [hp] at hlook
      cases hlook
    | _ => rfl
  have hdone : (Phase.finished reply).isParked = false := rfl
  simp only [waits, hawake, hdone, Bool.and_false] at hwaiting
  exact hwaiting

theorem Promised.sent {value : α} (h : Promised s) (hpassed : Passed s t caller)
    (hside : caller.call.isSend = true) (hwaiting : ∀ sender, t.waiting sender = s.waiting sender)
    (hopen : s.channel.closed = false) (hroom : s.channel.length < s.channel.capacity)
    (hchannel : t.channel = s.channel.push value) (hnotices : t.notices = s.notices + 1) :
    Promised t := by
  have hlength : t.channel.length = s.channel.length + 1 := by
    rw [hchannel, length, push, List.length_append]
    rfl
  have hcapacity : t.channel.capacity = s.channel.capacity := by
    rw [hchannel]
    rfl
  have hclosed : t.channel.closed = false := by
    rw [hchannel]
    exact hopen
  refine ⟨?_, fun sender _ hparked => ?_, fun sender hshut _ => ?_⟩
  · rw [hlength, hcapacity]
    exact hroom
  · rw [hwaiting sender] at hparked
    have hserved := h.served sender (fun _ => hopen) hparked
    cases sender with
    | true =>
      have hheeded := hpassed.heeded true
      simp only [supply, due, hlength, hcapacity] at hserved ⊢
      omega
    | false =>
      have hnotified := hpassed.notified false (by simp [hside])
      simp only [supply, due, hlength, hnotified, hnotices] at hserved ⊢
      omega
  · exact (Bool.false_ne_true (hclosed.symm.trans hshut)).elim

theorem Promised.received {u : Crowd α} {value : α} {rest : List α} (h : Promised s)
    (hwoken : Woken true u t) (hpassed : Passed s u caller) (hside : caller.call.isSend = false)
    (hwaiting : ∀ sender, u.waiting sender = s.waiting sender)
    (hb : s.channel.buffer = value :: rest) (hchannel : u.channel = { s.channel with buffer := rest })
    (hdue : u.due = s.due) (hclosing : u.closing = s.closing) : Promised t := by
  have hlength : s.channel.length = t.channel.length + 1 := by
    rw [hwoken.channel, hchannel, length, hb]
    rfl
  have hcapacity : t.channel.capacity = s.channel.capacity := by rw [hwoken.channel, hchannel]
  have hclosed : t.channel.closed = s.channel.closed := by rw [hwoken.channel, hchannel]
  have hstill (sender : Bool) (hparked : 0 < t.waiting sender) : 0 < s.waiting sender :=
    hwaiting sender ▸ hparked.trans_le (hwoken.waiting sender)
  have hbounded := h.bounded
  refine ⟨by omega, fun sender hopen hparked => ?_, fun sender hshut hparked => ?_⟩
  · rw [hclosed] at hopen
    have hserved := h.served sender hopen (hstill sender hparked)
    cases sender with
    | true =>
      -- A sender is still parked, so the place that became free was offered to another one.
      have hnotified := hpassed.notified true (by simp [hside])
      have hone := hwoken.one.resolve_left hparked.ne'
      simp only [supply, due, hcapacity] at hserved ⊢
      omega
    | false =>
      have hheeded := hpassed.heeded false
      have hothers : t.notified false = u.notified false := hwoken.others
      have hnotices : t.due false = s.due false := by rw [hwoken.due, hdue]
      simp only [supply] at hserved ⊢
      omega
  · rw [hclosed] at hshut
    rw [hwoken.closing, hclosing]
    exact h.dismissed sender hshut (hstill sender hparked)

theorem Promised.look (h : Promised s) (hc : s.callers[i]? = some caller)
    (hlook : caller.phase.mayLook = true) (hlooked : Looked s i caller spent woken t) :
    Promised t := by
  cases hlooked with
  | park hstalls _ ht =>
    subst ht
    apply h.pass hc
    · intro _
      exact supply_eq_zero_of_stalls hstalls
    · -- Nobody parks at a closed channel.
      intro hclosed
      exact (Bool.false_ne_true ((stalls_open hstalls).symm.trans hclosed)).elim
  | refuse e he ht =>
    subst ht
    apply h.pass hc
    · intro hopen
      obtain ⟨-, hout⟩ | ⟨hstalls, -⟩ := he
      · exact supply_eq_zero_of_shutsOut hout hopen
      · exact supply_eq_zero_of_stalls hstalls
    · intro _ sender
      exact waiting_finish sender hc hlook
  | send value patience hcall hopen hroom ht =>
    subst ht
    have hpassed : Passed s (s.setPhase i (.finished (.sent (.ok ())))) caller := .setPhase hc
    have hside : caller.call.isSend = true := by rw [hcall]; rfl
    refine h.sent ⟨hpassed.waiting, hpassed.notified, hpassed.heeded⟩ hside ?_ hopen
      (length_lt_of_room hroom h.bounded) rfl rfl
    intro sender
    exact waiting_finish sender hc hlook
  | receive value rest patience hcall hb ht =>
    have hpassed : Passed s (s.setPhase i (.finished (.received (.ok value)))) caller := .setPhase hc
    have hside : caller.call.isSend = false := by rw [hcall]; rfl
    refine h.received (.of_wake ht) ⟨hpassed.waiting, hpassed.notified, hpassed.heeded⟩ hside ?_ hb
      rfl rfl rfl
    intro sender
    exact waiting_finish sender hc hlook

theorem Promised.leave (h : Promised s) (hc : s.callers[i]? = some caller)
    (hparked : caller.phase.isParked = true) : Promised (s.setPhase i .arriving) := by
  have hstill (sender : Bool) (hleft : 0 < (s.setPhase i .arriving).waiting sender) :
      0 < s.waiting sender := hleft.trans_le (waiting_setPhase_le sender hc rfl)
  refine ⟨h.bounded, fun sender hopen hleft => ?_, fun sender hclosed hleft => ?_⟩
  · rw [notified_setPhase_parked .arriving sender hc hparked]
    exact (h.served sender hopen (hstill sender hleft)).trans
      (Nat.add_le_add_right (Nat.le_add_right _ _) _)
  · exact h.dismissed sender hclosed (hstill sender hleft)

theorem Promised.notice {n : Nat} (h : Promised s) (hn : s.notices = n + 1)
    (hwoken : Woken false { s with notices := n } t) : Promised t := by
  have hstill (sender : Bool) (hparked : 0 < t.waiting sender) : 0 < s.waiting sender :=
    hparked.trans_le (hwoken.waiting sender)
  have hchannel : t.channel = s.channel := hwoken.channel
  refine ⟨hchannel ▸ h.bounded, fun sender hopen hparked => ?_, fun sender hclosed hparked => ?_⟩
  · rw [hchannel] at hopen
    have hserved := h.served sender hopen (hstill sender hparked)
    have hdue : t.due sender = due { s with notices := n } sender := by rw [hwoken.due]
    cases sender with
    | true =>
      have hothers : t.notified true = s.notified true := hwoken.others
      simp only [supply, due, hchannel, hothers] at hserved ⊢
      exact hserved
    | false =>
      have hone : t.notified false = s.notified false + 1 := hwoken.one.resolve_left hparked.ne'
      simp only [supply, due, hchannel, hn, hone] at hserved hdue ⊢
      omega
  · rw [hchannel] at hclosed
    rw [hwoken.closing]
    exact h.dismissed sender hclosed (hstill sender hparked)

theorem Promised.arrive (h : Promised s) (call : Call α) :
    Promised { s with callers := s.callers ++ [⟨call, .arriving⟩] } := by
  have hwaiting (sender : Bool) :
      waiting { s with callers := s.callers ++ [⟨call, .arriving⟩] } sender = s.waiting sender := by
    rw [waiting, List.countP_append, List.countP_singleton, waits]
    simp [waiting, Phase.isParked]
  have hnotified (sender : Bool) :
      notified { s with callers := s.callers ++ [⟨call, .arriving⟩] } sender = s.notified sender := by
    rw [notified, List.countP_append, List.countP_singleton, heeds]
    simp [notified, Phase.isNotified]
  refine ⟨h.bounded, fun sender hopen hparked => ?_, fun sender hclosed hparked => ?_⟩
  · rw [hwaiting] at hparked
    rw [hnotified]
    exact h.served sender hopen hparked
  · rw [hwaiting] at hparked
    exact h.dismissed sender hclosed hparked

theorem Promised.close (h : Promised s) : Promised
    { s with channel := s.channel.close, closingReceivers := true, closingSenders := true } := by
  refine ⟨h.bounded, fun sender hopen hparked => ?_, fun sender _ _ => ?_⟩
  · cases sender with
    | true => cases hopen rfl
    | false =>
      -- The receivers may still take what is buffered, so nothing changes for them.
      have hserved := h.served false nofun hparked
      exact hserved
  · cases sender with
    | true => rfl
    | false => rfl

theorem Promised.wakeAll (sender : Bool) (h : Promised s) (hchannel : t.channel = s.channel)
    (hdue : t.due = s.due) (hclosing : t.closing (!sender) = s.closing (!sender))
    (hcallers : t.callers = (s.wakeAll sender).callers) : Promised t := by
  have hnobody : t.waiting sender = 0 := by
    rw [waiting, hcallers]
    exact waiting_wakeAll s sender
  have hother (p : Caller α → Bool) (hp : ∀ caller, p caller = true → caller.call.isSend = !sender) :
      t.callers.countP p = s.callers.countP p := by
    rw [hcallers]
    exact countP_wakeAll_other s (by simp) hp
  have hwaiting : t.waiting (!sender) = s.waiting (!sender) :=
    hother _ fun _ hwaits => eq_of_beq (Bool.and_eq_true_iff.1 hwaits).1
  have hnotified : t.notified (!sender) = s.notified (!sender) :=
    hother _ fun _ hheeds => eq_of_beq (Bool.and_eq_true_iff.1 hheeds).1
  have hside (other : Bool) (hparked : 0 < t.waiting other) : other = !sender := by
    apply Bool.eq_not_of_ne
    rintro rfl
    exact hparked.ne' hnobody
  refine ⟨hchannel ▸ h.bounded, fun other hopen hparked => ?_, fun other hclosed hparked => ?_⟩
  · obtain rfl := hside other hparked
    rw [hwaiting] at hparked
    rw [hchannel] at hopen
    have hserved := h.served (!sender) hopen hparked
    rw [hnotified, hdue]
    cases sender <;> simpa only [supply, hchannel] using hserved
  · obtain rfl := hside other hparked
    rw [hwaiting] at hparked
    rw [hchannel] at hclosed
    rw [hclosing]
    exact h.dismissed (!sender) hclosed hparked

theorem Promised.step (h : Promised s) {event : Event α} (hstep : s.step event = some t) :
    Promised t := by
  cases event with
  | arrive call =>
    cases hstep
    exact h.arrive call
  | look i spent woken =>
    obtain ⟨caller, hc, hlook, hlooked⟩ := step_look hstep
    exact h.look hc hlook hlooked
  | notice woken =>
    simp only [Crowd.step] at hstep
    split at hstep
    · cases hstep
    · rename_i n hn
      exact h.notice hn (.of_wake hstep)
  | leave i =>
    obtain ⟨caller, hc, hparked, rfl⟩ := step_leave hstep
    exact h.leave hc hparked
  | close =>
    simp only [Crowd.step] at hstep
    split at hstep <;> cases hstep
    · exact h
    · exact h.close
  | wakeReceivers =>
    simp only [Crowd.step] at hstep
    split at hstep <;> cases hstep
    exact h.wakeAll false rfl rfl rfl rfl
  | wakeSenders =>
    simp only [Crowd.step] at hstep
    split at hstep <;> cases hstep
    exact h.wakeAll true rfl rfl rfl rfl

theorem Reachable.promised {capacity : Nat} {pattern : Pattern} {c : Channel α}
    (hc : make capacity pattern = .ok c) (hs : Reachable c s) : Promised s := by
  induction hs with
  | start => exact .start hc
  | step event _ hstep ih => exact ih.step hstep

/-- While an operation is parked, as many of its side are notified, or about to be, as could go on;
senders are notified under the lock. No one is parked when closing is over. -/
theorem no_lost_wakeup {capacity : Nat} {pattern : Pattern} {c : Channel α}
    (hc : make capacity pattern = .ok c) (hs : Reachable c s) :
    (0 < s.waiting false → s.channel.length ≤ s.notified false + s.notices) ∧
    (0 < s.waiting true → s.channel.closed = false →
      s.channel.capacity - s.channel.length ≤ s.notified true) ∧
    (s.channel.closed = true → s.closingReceivers = false → s.closingSenders = false →
      ∀ caller ∈ s.callers, caller.phase.isParked = false) := by
  have hpromised := hs.promised hc
  refine ⟨fun hparked => ?_, fun hparked hopen => ?_, ?_⟩
  · exact hpromised.served false nofun hparked
  · exact hpromised.served true (fun _ => hopen) hparked
  · intro hclosed hreceivers hsenders caller hcaller
    rw [Bool.eq_false_iff]
    intro hparked
    have hwaiting : 0 < s.waiting caller.call.isSend := by
      apply List.countP_pos_iff.2
      exact ⟨caller, hcaller, Bool.and_eq_true_iff.2 ⟨beq_self_eq_true _, hparked⟩⟩
    have hclosing := hpromised.dismissed caller.call.isSend hclosed hwaiting
    cases hside : caller.call.isSend with
    | true =>
      rw [hside] at hclosing
      exact Bool.false_ne_true (hsenders.symm.trans hclosing)
    | false =>
      rw [hside] at hclosing
      exact Bool.false_ne_true (hreceivers.symm.trans hclosing)

/-- A receiver and two senders are parked when another receiver comes first; then the channel is
closed. -/
theorem no_lost_wakeup_barging : ∃ (c : Channel Nat) (s t : Crowd Nat),
    make 1 .plain = .ok c ∧ Reachable c s ∧ Reachable c t ∧
    (s.waiting false = 1 ∧ s.channel.length ≤ s.notified false + s.notices) ∧
    (s.waiting true = 1 ∧ s.channel.capacity - s.channel.length ≤ s.notified true) ∧
    t.channel.closed = true ∧ ∀ caller ∈ t.callers, caller.phase.isParked = false := by
  have hc : make 1 .plain = .ok (⟨1, .plain, [], false⟩ : Channel Nat) := rfl
  have hstart : Reachable (⟨1, .plain, [], false⟩ : Channel Nat) _ := .start
  have hreceiver := hstart.step (.arrive (.receive .unlimited)) rfl |>.step (.look 0 false none) rfl
  have hsent := hreceiver.step (.arrive (.send 7 .unlimited)) rfl |>.step (.look 1 false none) rfl
  have hfirst := hsent.step (.arrive (.send 8 .unlimited)) rfl |>.step (.look 2 false none) rfl
  have hsecond := hfirst.step (.arrive (.send 9 .token)) rfl |>.step (.look 3 false none) rfl
  have hs := hsecond.step (.arrive (.receive .none)) rfl |>.step (.look 4 true (some 2)) rfl
  have ht := hs.step .close rfl |>.step .wakeReceivers rfl |>.step .wakeSenders rfl
  have hparked := no_lost_wakeup hc hs
  have hclosed := no_lost_wakeup hc ht
  exact ⟨_, _, _, hc, hs, ht, ⟨rfl, hparked.1 (by decide)⟩, ⟨rfl, hparked.2.1 (by decide) rfl⟩, rfl,
    hclosed.2.2 rfl rfl rfl⟩

end Crowd

end Relay.Channel
