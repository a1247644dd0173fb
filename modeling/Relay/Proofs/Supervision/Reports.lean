import Relay.Proofs.Supervision.Consistency
import Relay.Proofs.Supervision.Starting

namespace Relay.Channel

variable {α : Type}

theorem offer_append (c : Channel α) (first second : List α) :
    c.offer (first ++ second) = (c.offer first).offer second :=
  List.foldl_append

theorem offer_of_full {c : Channel α} (hfull : c.isFull = true) (values : List α) :
    c.offer values = c := by
  induction values with
  | nil => rfl
  | cons value values ih =>
    have hrefused : (c.trySend value).2 = c := by
      cases hclosed : c.closed <;>
        simp [trySend, attemptSend, lacksRoom, hfull, hclosed, Patience.refusal?]
    rw [offer, List.foldl_cons, hrefused]
    exact ih

theorem offer_of_room_after {c : Channel α} {values : List α}
    (hopen : (c.offer values).closed = false)
    (hroom : (c.offer values).isFull = false) (hclosed : c.closed = false) :
    (c.offer values).buffer = c.buffer ++ values := by
  induction values generalizing c with
  | nil => exact (List.append_nil _).symm
  | cons value values ih =>
    cases hfull : c.isFull with
    | true =>
      rw [offer_of_full hfull, hfull] at hroom
      cases hroom
    | false =>
      have hpushed : (c.trySend value).2 = c.push value := by
        simp [trySend, attemptSend, lacksRoom, hclosed, hfull]
      rw [offer, List.foldl_cons, hpushed] at hopen hroom ⊢
      have hrest := ih hopen hroom hclosed
      rw [← offer, hrest, push, List.append_assoc]
      rfl

end Relay.Channel

namespace Relay.Supervision.Event

def generation? (i : Nat) : Event → Option Nat
  | .started j _ generation | .restarted j _ generation => if j = i then some generation else none
  | .failed .. | .limitExceeded .. | .stopped => none

def tellsRestart (i : Nat) : Event → Bool
  | .restarted j _ _ => j == i
  | _ => false

def IsMute (event : Event) : Prop := ∀ i, event.generation? i = none ∧ event.tellsRestart i = false

theorem isMute_failed (i : Nat) (name error : String) : (failed i name error).IsMute :=
  fun _ => ⟨rfl, rfl⟩

theorem isMute_limitExceeded (i : Nat) (name : String) : (limitExceeded i name).IsMute :=
  fun _ => ⟨rfl, rfl⟩

theorem isMute_stopped : stopped.IsMute := fun _ => ⟨rfl, rfl⟩

end Relay.Supervision.Event

namespace Relay.Supervisor

open Supervision

/-- Values that grow, above one number and up to another. -/
structure Rising (low : Nat) (values : List Nat) (high : Nat) : Prop where
  le : low ≤ high
  increasing : values.Pairwise (· < ·)
  bounded : ∀ value ∈ values, low < value ∧ value ≤ high

theorem Rising.nil {low high : Nat} (h : low ≤ high) : Rising low [] high := ⟨h, .nil, nofun⟩

theorem Rising.succ (low : Nat) : Rising low [low + 1] (low + 1) :=
  ⟨Nat.le_succ low, List.pairwise_singleton _ _, fun value hm => by
    rw [List.mem_singleton.1 hm]
    exact ⟨Nat.lt_succ_self low, Nat.le_refl _⟩⟩

theorem Rising.trans {low middle high : Nat} {first second : List Nat} (h : Rising low first middle)
    (h' : Rising middle second high) : Rising low (first ++ second) high where
  le := h.le.trans h'.le
  increasing := by
    refine List.pairwise_append.2 ⟨h.increasing, h'.increasing, fun a ha b hb => ?_⟩
    exact (h.bounded a ha).2.trans_lt (h'.bounded b hb).1
  bounded := by
    intro value hm
    rcases List.mem_append.1 hm with hm | hm
    · exact ⟨(h.bounded value hm).1, (h.bounded value hm).2.trans h'.le⟩
    · exact ⟨h.le.trans_lt (h'.bounded value hm).1, (h'.bounded value hm).2⟩

variable {s t u : Supervisor} {i k n : Nat} {denied : Denials} {a : Action}

/-- The generation of a child, which is none before it is registered. -/
def generationOf (s : Supervisor) (i : Nat) : Nat := s.children[i]?.elim 0 (·.generation)

def restartsOf (s : Supervisor) (i : Nat) : Nat := s.children[i]?.elim 0 (·.restarts)

/-- Events tell what became of the generations and restarts of all children between two moments. -/
structure Tally (s : Supervisor) (block : List Event) (t : Supervisor) : Prop where
  generations : ∀ i,
    Rising (s.generationOf i) (block.filterMap (·.generation? i)) (t.generationOf i)
  restarts : ∀ i, t.restartsOf i = s.restartsOf i + block.countP (·.tellsRestart i)

theorem Tally.trans {first second : List Event} (h : Tally s first t) (h' : Tally t second u) :
    Tally s (first ++ second) u where
  generations i := by
    rw [List.filterMap_append]
    exact (h.generations i).trans (h'.generations i)
  restarts i := by
    rw [h'.restarts, h.restarts, List.countP_append, Nat.add_assoc]

/-- `t` came out of `s` by a chain of changes that were reported as they were made. -/
structure Tells (s : Supervisor) (block : List Event) (t : Supervisor) : Prop
    extends Tally s block t where
  events : t.events = s.events.map (·.offer block)

namespace Tells

theorem trans {first second : List Event} (h : Tells s first t) (h' : Tells t second u) :
    Tells s (first ++ second) u where
  toTally := h.toTally.trans h'.toTally
  events := by
    rw [h'.events, h.events, Option.map_map]
    congr 1
    funext channel
    exact (Channel.offer_append channel first second).symm

theorem trans_nil {block : List Event} (h : Tells s block t) (h' : Tells t [] u) :
    Tells s block u := by
  have hboth := h.trans h'
  rwa [List.append_nil] at hboth

theorem silent (hevents : t.events = s.events) (hg : ∀ i, s.generationOf i ≤ t.generationOf i)
    (hr : ∀ i, t.restartsOf i = s.restartsOf i) : Tells s [] t where
  generations i := .nil (hg i)
  restarts i := by rw [hr, List.countP_nil, Nat.add_zero]
  events := by
    rw [hevents]
    exact Option.map_id'.symm

theorem of_eq (hevents : t.events = s.events) (hc : t.children = s.children) : Tells s [] t := by
  apply silent hevents
  · intro i
    rw [generationOf, generationOf, hc]
  · intro i
    rw [restartsOf, restartsOf, hc]

theorem of_records {f : Nat → Child → Child} (hevents : t.events = s.events)
    (hc : ∀ i : Nat, t.children[i]? = s.children[i]?.map (f i))
    (hf : ∀ i c, c.generation ≤ (f i c).generation ∧ (f i c).restarts = c.restarts) :
    Tells s [] t := by
  apply silent hevents
  · intro i
    rw [generationOf, generationOf, hc]
    cases s.children[i]? with
    | none => exact Nat.le_refl 0
    | some c => exact (hf i c).1
  · intro i
    rw [restartsOf, restartsOf, hc]
    cases s.children[i]? with
    | none => rfl
    | some c => exact (hf i c).2

theorem of_modify {f : Child → Child} (hevents : t.events = s.events)
    (hc : t.children = s.children.modify i f)
    (hf : ∀ c, c.generation ≤ (f c).generation ∧ (f c).restarts = c.restarts) : Tells s [] t := by
  refine of_records (f := fun j c => if i = j then f c else c) hevents (fun j => ?_) fun j c => ?_
  · rw [hc, List.getElem?_modify]
    rfl
  · split
    · exact hf c
    · exact ⟨Nat.le_refl _, rfl⟩

theorem of_map {f : Child → Child} (hevents : t.events = s.events)
    (hc : t.children = s.children.map f)
    (hf : ∀ c, c.generation ≤ (f c).generation ∧ (f c).restarts = c.restarts) : Tells s [] t :=
  of_records (f := fun _ => f) hevents (fun i => by rw [hc, List.getElem?_map]) fun _ => hf

theorem of_mute {block : List Event} {f : Child → Child}
    (hevents : t.events = s.events.map (·.offer block)) (hblock : ∀ event ∈ block, event.IsMute)
    (hc : t.children = s.children.modify i f)
    (hf : ∀ c, c.generation ≤ (f c).generation ∧ (f c).restarts = c.restarts) :
    Tells s block t where
  generations j := by
    have htally := (of_modify (s := s) (t := { t with events := s.events }) rfl hc hf).generations j
    rwa [List.filterMap_eq_nil_iff.2 fun event hm => (hblock event hm j).1]
  restarts j := by
    have htally := (of_modify (s := s) (t := { t with events := s.events }) rfl hc hf).restarts j
    rwa [List.countP_eq_zero.2 fun event hm => by simp [(hblock event hm j).2]]
  events := hevents

theorem of_start {event : Event} {c : Child} {f : Child → Child} (hc : s.children[i]? = some c)
    (hevents : t.events = s.events.map (·.offer [event]))
    (hchildren : t.children = s.children.modify i f)
    (hg : (f c).generation = c.generation + 1)
    (hgeneration : ∀ j, event.generation? j = if i = j then some (c.generation + 1) else none)
    (hr : (f c).restarts = c.restarts + (event.tellsRestart i).toNat)
    (hother : ∀ j, i ≠ j → event.tellsRestart j = false) : Tells s [event] t where
  generations j := by
    have htold := hgeneration j
    rw [generationOf, generationOf, hchildren, List.getElem?_modify]
    by_cases hj : i = j
    · subst hj
      rw [if_pos rfl] at htold
      rw [List.filterMap_cons_some htold, hc]
      change Rising c.generation [c.generation + 1] ((if i = i then f c else c).generation)
      rw [if_pos rfl, hg]
      exact .succ c.generation
    · rw [if_neg hj] at htold
      rw [List.filterMap_cons_none htold]
      simp only [if_neg hj, Option.map_eq_map, Option.map_id']
      exact .nil (Nat.le_refl _)
  restarts j := by
    rw [restartsOf, restartsOf, hchildren, List.getElem?_modify, List.countP_singleton]
    by_cases hj : i = j
    · subst hj
      rw [hc]
      change (if i = i then f c else c).restarts = c.restarts + _
      rw [if_pos rfl, hr]
      cases event.tellsRestart i <;> rfl
    · simp only [if_neg hj, Option.map_eq_map, Option.map_id', hother j hj]
      rfl
  events := hevents

end Tells

section Starts

def startReport? (s : Supervisor) (j : Nat) : Option Event :=
  s.children[j]?.map fun c => .started j c.name.text (c.generation + 1)

theorem launch_tells {c : Child} (hc : s.children[i]? = some c) :
    Tells s [.started i c.name.text (c.generation + 1)]
      ((s.launch i c).emit (.started i c.name.text (c.generation + 1))) :=
  .of_start hc rfl rfl rfl (fun _ => rfl) rfl fun _ _ => rfl

theorem Launched.tells (h : Launched s i k t) :
    Tells s ((List.range' i (k - i)).filterMap s.startReport?) t := by
  induction h with
  | nil s i =>
    rw [Nat.sub_self]
    exact .of_eq rfl rfl
  | @cons s t i k c hc h ih =>
    have hreport : s.startReport? i = some (.started i c.name.text (c.generation + 1)) := by
      simp [startReport?, hc]
    -- The reports of later children do not depend on this one.
    have hlater : (List.range' (i + 1) (k - (i + 1))).filterMap
        ((s.launch i c).emit (.started i c.name.text (c.generation + 1))).startReport? =
        (List.range' (i + 1) (k - (i + 1))).filterMap s.startReport? := by
      refine List.filterMap_congr fun j hj => ?_
      have hge := (List.mem_range'_1.1 hj).1
      change ((s.children.modify i _)[j]?).map _ = _
      rw [List.getElem?_modify_ne _ _ (by omega)]
      rfl
    have hcount : k - i = k - (i + 1) + 1 := by
      have hik := h.le
      omega
    rw [hcount, List.range'_succ, List.filterMap_cons_some hreport, ← hlater]
    exact (launch_tells hc).trans ih

def registerReports (s : Supervisor) (task : Task) (denied : Denials) : List Event :=
  match s.id.scoped? task.name with
  | some name =>
    if s.status.isActive && s.dynamic && (denied s.children.length).isNone then
      [.started s.children.length name.text 1]
    else []
  | none => []

theorem takeWhile_range {p : Nat → Bool} (hk : k ≤ n) (hbefore : ∀ j < k, p j = true)
    (hend : k < n → p k = false) : (List.range n).takeWhile p = List.range k := by
  have hsplit := @List.range'_append_1 0 k (n - k)
  rw [Nat.zero_add, Nat.add_sub_cancel' hk] at hsplit
  rw [← List.range_eq_range', ← List.range_eq_range'] at hsplit
  have hnone : (List.range' k (n - k)).takeWhile p = [] := by
    rcases Nat.eq_or_lt_of_le hk with rfl | hlt
    · rw [Nat.sub_self]
      rfl
    · have hcount : n - k = n - k - 1 + 1 := by omega
      rw [hcount, List.range'_succ, List.takeWhile_cons_of_neg (by simp [hend hlt])]
  rw [← hsplit, List.takeWhile_append_of_pos fun j hj => hbefore j (List.mem_range.1 hj), hnone,
    List.append_nil]

theorem readied_startReport? (s : Supervisor) : s.readied.startReport? = s.startReport? := by
  funext j
  rw [startReport?, startReport?, readied_getElem?_children, Option.map_map]
  rfl

theorem dropHandles_tells (s : Supervisor) : Tells s [] s.dropHandles := by
  refine .of_map ?_ (dropHandles_children s) fun _ => ⟨Nat.le_refl _, rfl⟩
  rw [dropHandles_eq]

theorem abandonStart_tells (s : Supervisor) : Tells s [] s.abandonStart := by
  exact (dropHandles_tells s).trans_nil (.of_map rfl rfl fun _ => ⟨Nat.le_refl _, rfl⟩)

/-- What a start reports: the children that are started, up to the first whose thread is denied. -/
def startReports (s : Supervisor) (denied : Denials) : List Event :=
  if s.status.isActive then []
  else
    match s.init.head? with
    | some (some _) => []
    | _ =>
      ((List.range s.children.length).takeWhile fun j => (denied j).isNone).filterMap s.startReport?

theorem startReports_of_starts (h : s.starts) (denied : Denials) : s.startReports denied =
    ((List.range s.children.length).takeWhile fun j => (denied j).isNone).filterMap
      s.startReport? := by
  simp only [startReports, h.1, Bool.false_eq_true, if_false]
  split
  · rename_i failure hhook
    exact (h.2 failure hhook).elim
  · rfl

theorem start_tells (s : Supervisor) (denied : Denials) :
    Tells s (s.startReports denied) (s.start denied).2 := by
  by_cases h : s.starts
  · have hready : Tells s [] s.readied := .of_map rfl rfl fun _ => ⟨Nat.le_refl _, rfl⟩
    obtain ⟨k, t, hlaunched, hpermitted, hend⟩ :=
      startChildren_launched denied s.children.length 0 s.readied (by simp [readied, prepareStart])
    have htells := hlaunched.tells
    rw [readied_startReport?, Nat.sub_zero, ← List.range_eq_range'] at htells
    have hbefore (j : Nat) (hj : j < k) : (denied j).isNone = true := by
      rw [hpermitted j (Nat.zero_le j) hj]
      rfl
    rw [startReports_of_starts h, start_of_starts h]
    obtain ⟨hk, heq⟩ | ⟨hk, c, e, -, hd, heq⟩ := hend
    · rw [takeWhile_range (by omega) hbefore (by omega), heq]
      exact (hready.trans htells).trans_nil (.of_eq rfl rfl)
    · rw [takeWhile_range (by omega) hbefore (fun _ => by simp [hd]), heq]
      have hraised : Tells t [] (t.modifyChild k Child.raised) :=
        .of_modify rfl rfl fun _ => ⟨Nat.le_succ _, rfl⟩
      exact ((hready.trans htells).trans_nil hraised).trans_nil (abandonStart_tells _)
  · obtain ⟨init, heq⟩ := start_refused h denied
    have hsilent : s.startReports denied = [] := by
      unfold startReports
      split
      · rfl
      · rename_i hinactive
        split
        · rfl
        · rename_i hhook
          exact (h ⟨by simpa using hinactive, hhook⟩).elim
    rw [hsilent, heq]
    exact .of_eq rfl rfl

theorem enroll_tells (s : Supervisor) (name : Name) (task : Task) :
    Tells s [] (s.enroll name task) := by
  have hsame (j : Nat) (g : Child → Nat) (hg : g (.fresh name task) = 0) :
      (s.children ++ [.fresh name task])[j]?.elim 0 g = s.children[j]?.elim 0 g := by
    rcases Nat.lt_trichotomy j s.children.length with hlt | rfl | hgt
    · rw [List.getElem?_append_left hlt]
    · rw [List.getElem?_concat_length, List.getElem?_eq_none (Nat.le_refl _)]
      exact hg
    · rw [List.getElem?_eq_none (by simp; omega), List.getElem?_eq_none (by omega)]
  exact .silent rfl (fun j => (hsame j (·.generation) rfl).ge) fun j => hsame j (·.restarts) rfl

theorem register_tells (s : Supervisor) (task : Task) (denied : Denials) :
    Tells s (s.registerReports task denied) (s.register task denied).2 := by
  cases hname : s.id.scoped? task.name with
  | none =>
    simp only [registerReports, register, hname]
    exact .of_eq rfl rfl
  | some name =>
    cases hopen : s.status.isActive && !s.dynamic with
    | true =>
      have hstatic : s.dynamic = false := by simpa using (Bool.and_eq_true_iff.1 hopen).2
      have hreports : s.registerReports task denied = [] := by
        simp [registerReports, hname, hstatic]
      simp only [register, hname, hopen, if_true, hreports]
      exact .of_eq rfl rfl
    | false =>
      have henrolled := enroll_tells s name task
      have hc : (s.enroll name task).children[s.children.length]? = some (.fresh name task) :=
        List.getElem?_concat_length
      rw [register_eq hname hopen]
      simp only [registerReports, hname]
      cases hactive : s.status.isActive with
      | false => exact henrolled
      | true =>
        have hdynamic : s.dynamic = true := by simpa [hactive] using hopen
        cases hd : denied s.children.length with
        | none =>
          simp only [spawnChild_permitted hc hd, launch_emitStarted hc, hdynamic]
          exact henrolled.trans (launch_tells hc)
        | some e =>
          simp only [spawnChild_denied hc hd, hdynamic]
          exact henrolled.trans (.of_modify rfl rfl fun _ => ⟨Nat.le_succ _, rfl⟩)

end Starts

section Failures

variable {failure : Failure} {now : Nat}

theorem restart_tells (s : Supervisor) (i : Nat) (denied : Denials) :
    Tells s (if (denied i).isNone then (s.restartReport? i).toList else [])
      (s.restart i denied).2 := by
  cases hc : s.children[i]? with
  | none =>
    have hreport : s.restartReport? i = none := by simp [restartReport?, hc]
    rw [hreport, Option.toList_none, ite_self]
    simp only [restart, spawnChild, hc]
    exact .of_eq rfl rfl
  | some c =>
    have hreport : s.restartReport? i = some (.restarted i c.name.text (c.generation + 1)) := by
      simp [restartReport?, hc]
    cases hd : denied i with
    | none =>
      have hrestarted : (s.restart i denied).2 = restartTarget denied s i := by
        simp only [restartTarget, restart, spawnChild_permitted hc hd]
      rw [hrestarted, restartTarget_permitted hc hd, hreport]
      have hcounted : (Event.restarted i c.name.text (c.generation + 1)).tellsRestart i = true :=
        beq_self_eq_true i
      refine .of_start hc rfl rfl rfl (fun _ => rfl) ?_ fun j hj => beq_false_of_ne hj
      rw [hcounted]
      rfl
    | some e =>
      simp only [restart, spawnChild_denied hc hd]
      exact .of_modify rfl rfl fun _ => ⟨Nat.le_succ _, rfl⟩

theorem restartTarget_tells (s : Supervisor) (i : Nat) (denied : Denials) :
    Tells s (if (denied i).isNone then (s.restartReport? i).toList else [])
      (restartTarget denied s i) := by
  have hrestarted := restart_tells s i denied
  rcases hanswer : s.restart i denied with ⟨_ | _, after⟩
  · rw [hanswer] at hrestarted
    simp only [restartTarget, hanswer]
    have hfailed : Tells after [] (after.modifyChild i Child.faulty) :=
      .of_modify rfl rfl fun _ => ⟨Nat.le_refl _, rfl⟩
    exact (hrestarted.trans_nil hfailed).trans_nil (.of_eq rfl rfl)
  · rw [hanswer] at hrestarted
    simp only [restartTarget, hanswer]
    exact hrestarted

theorem restartTargets_tells {indices : List Nat} (s : Supervisor) (denied : Denials)
    (hnodup : indices.Nodup) :
    Tells s ((indices.filter fun j => (denied j).isNone).filterMap s.restartReport?)
      (indices.foldl (restartTarget denied) s) := by
  induction indices generalizing s with
  | nil => exact .of_eq rfl rfl
  | cons i indices ih =>
    obtain ⟨hi, hnodup⟩ := List.nodup_cons.1 hnodup
    have hfirst := restartTarget_tells s i denied
    have hlater : (indices.filter fun j => (denied j).isNone).filterMap
        (restartTarget denied s i).restartReport? =
        (indices.filter fun j => (denied j).isNone).filterMap s.restartReport? := by
      refine List.filterMap_congr fun j hj => ?_
      have hji : i ≠ j := by
        rintro rfl
        exact hi (List.mem_filter.1 hj).1
      rw [restartReport?, restartTarget_children, List.getElem?_modify_ne _ _ hji]
      rfl
    have hsplit : ((i :: indices).filter fun j => (denied j).isNone).filterMap s.restartReport? =
        (if (denied i).isNone then (s.restartReport? i).toList else []) ++
          (indices.filter fun j => (denied j).isNone).filterMap s.restartReport? := by
      cases hd : (denied i).isNone <;> cases hreport : s.restartReport? i <;> simp [hd, hreport]
    rw [hsplit, ← hlater]
    exact hfirst.trans (ih _ hnodup)

/-- What the failure of a child reports: the failure, and then the restarts for it whose threads
could be created, or that the budget is exhausted. -/
def failureReports (s : Supervisor) (i : Nat) (failure : Failure) (now : Nat) (denied : Denials) :
    List Event :=
  s.failureReport i failure ::
    if s.admitsAt now then
      ((s.targets i).filter fun j => (denied j).isNone).filterMap s.restartReport?
    else [.limitExceeded i (s.childName i)]

def exitReports (s : Supervisor) (inst : Instance) (result : Except Failure Unit) (now : Nat)
    (denied : Denials) : List Event :=
  if s.accepts inst then
    match result with
    | .ok () => []
    | .error failure => s.failureReports inst.child failure now denied
  else []

theorem handleFailure_tells (hs : Reachable s) (hi : i < s.children.length) (failure : Failure)
    (now : Nat) (denied : Denials) :
    Tells s (s.failureReports i failure now denied) (s.handleFailure i failure now denied) := by
  rw [failureReports]
  cases hadmits : s.admitsAt now with
  | false =>
    have hexhausted : Exhausted s i failure now none (s.handleFailure i failure now denied) :=
      handleFailure_exhausted hs.sound.linked hadmits
    refine .of_mute hexhausted.events ?_ hexhausted.children fun _ => ⟨Nat.le_refl _, rfl⟩
    exact List.forall_mem_cons.2 ⟨Event.isMute_failed _ _ _,
      List.forall_mem_singleton.2 (Event.isMute_limitExceeded _ _)⟩
  | true =>
    have haccounted : Tells s [s.failureReport i failure] (s.accountFor i failure now) := by
      refine .of_mute (accountFor_events s i failure now) ?_ (accountFor_children failure now)
        fun _ => ⟨Nat.le_refl _, rfl⟩
      exact List.forall_mem_singleton.2 (Event.isMute_failed _ _ _)
    have hreports : (s.accountFor i failure now).restartReport? = s.restartReport? :=
      funext fun j => accountFor_map_children s i failure now j fun _ => rfl
    obtain ⟨-, hnodup, -⟩ := targets_valid hs.dependencies_size hi
    have hrestarted := restartTargets_tells (s.accountFor i failure now) denied hnodup
    rw [hreports] at hrestarted
    rw [handleFailure_eq, if_pos hadmits]
    exact haccounted.trans hrestarted

theorem childExited_tells (hs : Reachable s) (inst : Instance) (result : Except Failure Unit)
    (now : Nat) (denied : Denials) :
    Tells s (s.exitReports inst result now denied) (s.childExited inst result now denied) := by
  unfold exitReports childExited
  cases haccepts : s.accepts inst with
  | false => exact .of_eq rfl rfl
  | true =>
    obtain ⟨-, c, hc, -, -⟩ := accepts_iff.1 haccepts
    have hi := (List.getElem?_eq_some_iff.1 hc).1
    cases result with
    | ok =>
      refine .of_modify ?_ (complete_children inst.child) fun _ => ⟨Nat.le_refl _, rfl⟩
      rw [complete, dropHandle_eq]
      rfl
    | error failure => exact handleFailure_tells hs hi failure now denied

end Failures

/-- What an action reports. -/
def report (s : Supervisor) : Action → List Event
  | .register task denied => s.registerReports task denied
  | .start denied => s.startReports denied
  | .stopStep j =>
    match s.stoppers[j]?.map Stopper.phase with
    | some .closing => [.stopped]
    | _ => []
  | .restartChild i denied =>
    match s.ensureChild i with
    | .ok () => if (denied i).isNone then (s.restartReport? i).toList else []
    | .error _ => []
  | .reportFailure i failure now denied =>
    match s.ensureChild i with
    | .ok () => s.failureReports i failure now denied
    | .error _ => []
  | .exit k result now denied =>
    match s.instances[k]? with
    | some inst => if inst.live then s.exitReports inst result now denied else []
    | none => []
  | _ => []

theorem beginStop_tells (s : Supervisor) : Tells s [] s.beginStop.2 := by
  cases hactive : s.status.isActive with
  | true =>
    rw [beginStop_active hactive]
    refine .of_map rfl rfl fun c => ?_
    unfold Child.halted
    split <;> exact ⟨Nat.le_refl _, rfl⟩
  | false =>
    rw [beginStop_inactive hactive]
    exact .of_eq rfl rfl

theorem stopStep_tells (s : Supervisor) (j : Nat) :
    Tells s (s.report (.stopStep j)) ((s.stopStep j).getD s) := by
  unfold stopStep
  cases hj : s.stoppers[j]? with
  | none =>
    simp only [report, hj]
    exact .of_eq rfl rfl
  | some stopper =>
    cases hp : stopper.phase with
    | taking | done =>
      simp only [report, hj, Option.map_some, hp]
      exact .of_eq rfl rfl
    | joining handles =>
      simp only [report, hj, Option.map_some, hp]
      split <;> exact .of_eq rfl rfl
    | closing =>
      simp only [report, hj, Option.map_some, hp]
      have hreported : Tells s [.stopped] (s.emit .stopped) :=
        .of_mute rfl (List.forall_mem_singleton.2 Event.isMute_stopped)
          (List.modify_id 0 s.children).symm fun _ => ⟨Nat.le_refl _, rfl⟩
      exact hreported.trans_nil (.of_eq rfl rfl)

/-- Every critical section reports what it makes of the generations and restarts of children. -/
theorem act_tells (hs : Reachable s) (hown : ∀ channel, a ≠ .events channel) :
    Tells s (s.report a) (s.act a) := by
  cases a with
  | register task denied => exact register_tells s task denied
  | addDependency child on =>
    obtain ⟨dependencies, -, heq⟩ := addDependency_eq s child on
    rw [act, heq]
    exact .of_eq rfl rfl
  | events channel => exact (hown channel rfl).elim
  | start denied => exact start_tells s denied
  | beginStop => exact beginStop_tells s
  | stopStep j => exact stopStep_tells s j
  | restartChild i denied =>
    simp only [act, report, restartChild]
    cases s.ensureChild i with
    | error e => exact .of_eq rfl rfl
    | ok => exact restart_tells s i denied
  | reportFailure i failure now denied =>
    simp only [act, report, reportFailure]
    cases hok : s.ensureChild i with
    | error e => exact .of_eq rfl rfl
    | ok => exact handleFailure_tells hs (ensureChild_ok hok).2 failure now denied
  | exit k result now denied =>
    simp only [act, report, exit]
    cases hk : s.instances[k]? with
    | none => exact .of_eq rfl rfl
    | some inst =>
      cases hlive : inst.live with
      | false =>
        simp only [hlive]
        exact .of_eq rfl rfl
      | true =>
        simp only [hlive, if_true]
        exact (childExited_tells hs inst result now denied).trans_nil (.of_eq rfl rfl)
  | superviseChannel | strategy | settings | progress | wait | waitLook => exact .of_eq rfl rfl

def buffered (s : Supervisor) : List Event := s.events.elim [] (·.buffer)

/-- Whether there is a channel for events, which is open and not full. -/
def hasRoom (s : Supervisor) : Bool :=
  s.events.any fun channel => !channel.closed && !channel.isFull

/-- What an action adds to the events that wait; what others do with the channel is not counted. -/
def emitted (s : Supervisor) : Action → List Event
  | .events _ => []
  | a => (s.act a).buffered.drop s.buffered.length

def log (s : Supervisor) : List Action → List Event
  | [] => []
  | a :: earlier => s.log earlier ++ (s.after earlier).emitted a

def reports (s : Supervisor) : List Action → List (List Event)
  | [] => []
  | a :: earlier => s.reports earlier ++ [(s.after earlier).report a]

theorem Tells.buffered {block : List Event} (h : Tells s block t) (hs : s.hasRoom = true)
    (ht : t.hasRoom = true) : t.buffered = s.buffered ++ block := by
  cases hchannel : s.events with
  | none => simp [hasRoom, hchannel] at hs
  | some channel =>
    have hafter : t.events = some (channel.offer block) := by
      rw [h.events, hchannel, Option.map_some]
    simp only [hasRoom, hchannel, hafter, Option.any_some, Bool.and_eq_true,
      Bool.not_eq_true'] at hs ht
    simp only [Supervisor.buffered, hchannel, hafter]
    exact Channel.offer_of_room_after ht.1 ht.2 hs.1

theorem buffered_act (hs : Reachable s) (hroom : s.hasRoom = true)
    (hafter : (s.act a).hasRoom = true)
    (hown : ∀ channel, a ≠ .events channel) : (s.act a).buffered = s.buffered ++ s.report a :=
  (act_tells hs hown).buffered hroom hafter

theorem foreign_or_own (a : Action) :
    (∃ channel, a = .events channel) ∨ ∀ channel, a ≠ .events channel := by
  cases a with
  | events channel => exact .inl ⟨channel, rfl⟩
  | _ => exact .inr fun _ => nofun

theorem emitted_eq (hs : Reachable s) (hroom : s.hasRoom = true)
    (hafter : (s.act a).hasRoom = true) :
    s.emitted a = s.report a := by
  rcases foreign_or_own a with ⟨channel, rfl⟩ | hown
  · rfl
  · have hemitted : s.emitted a = (s.act a).buffered.drop s.buffered.length := by
      cases a with
      | events channel => exact (hown channel rfl).elim
      | _ => rfl
    rw [hemitted, buffered_act hs hroom hafter hown, List.drop_left]

theorem act_tally (hs : Reachable s) (a : Action) : Tally s (s.report a) (s.act a) := by
  rcases foreign_or_own a with ⟨channel, rfl⟩ | hown
  · have hsame : Tells s [] s := .of_eq rfl rfl
    exact ⟨hsame.generations, hsame.restarts⟩
  · exact (act_tells hs hown).toTally

theorem log_tally (hs : Reachable s) {history : List Action}
    (hroom : ∀ earlier, earlier <:+ history → (s.after earlier).hasRoom = true) :
    s.log history = (s.reports history).flatten ∧ Tally s (s.log history) (s.after history) := by
  induction history with
  | nil => exact ⟨rfl, (Tells.of_eq rfl rfl).toTally⟩
  | cons a earlier ih =>
    obtain ⟨hlog, htally⟩ :=
      ih fun shorter hsuffix => hroom shorter (hsuffix.trans (List.suffix_cons a earlier))
    have hemitted : (s.after earlier).emitted a = (s.after earlier).report a :=
      emitted_eq (hs.after earlier) (hroom earlier (List.suffix_cons a earlier))
        (hroom (a :: earlier) List.suffix_rfl)
    constructor
    · rw [log, reports, List.flatten_append, List.flatten_singleton, hlog, hemitted]
    · rw [log, hemitted]
      exact htally.trans (act_tally (hs.after earlier) a)

/-- While the channel is open and not full, each critical section adds its report to it and nothing
else, so that the log is made of whole reports. In the log the generations of each child increase,
and the child was restarted as often as the log tells. -/
theorem events_replay (hs : Reachable s) (hcreated : s.status = .created) (history : List Action)
    (hroom : ∀ earlier, earlier <:+ history → (s.after earlier).hasRoom = true) :
    (∀ a earlier, a :: earlier <:+ history → (∀ channel, a ≠ .events channel) →
      (s.after (a :: earlier)).buffered =
        (s.after earlier).buffered ++ (s.after earlier).report a) ∧
    s.log history = (s.reports history).flatten ∧
    ∀ (i : Nat) (c : Child), (s.after history).children[i]? = some c →
      ((s.log history).filterMap (·.generation? i)).Pairwise (· < ·) ∧
      (∀ generation ∈ (s.log history).filterMap (·.generation? i), generation ≤ c.generation) ∧
      (s.log history).countP (·.tellsRestart i) = c.restarts := by
  obtain ⟨hlog, htally⟩ := log_tally hs hroom
  refine ⟨fun a earlier hsuffix hown => ?_, hlog, fun i c hc => ?_⟩
  · exact buffered_act (hs.after earlier)
      (hroom earlier ((List.suffix_cons a earlier).trans hsuffix)) (hroom _ hsuffix) hown
  · have hgenerations := htally.generations i
    have hrestarts := htally.restarts i
    rw [generationOf, generationOf, hc] at hgenerations
    -- Nothing was restarted before the first start.
    have hnone : s.restartsOf i = 0 := by
      cases hc : s.children[i]? with
      | none => simp [restartsOf, hc]
      | some d =>
        have hmarked := hs.marked d (List.mem_of_getElem? hc)
        have hle := hmarked.restarts_le
        rw [(hmarked.created hcreated).2] at hle
        simpa [restartsOf, hc] using hle
    rw [restartsOf, hc, hnone, Nat.zero_add] at hrestarts
    exact ⟨hgenerations.increasing, fun generation hm => (hgenerations.bounded generation hm).2,
      hrestarts.symm⟩

/-- The restart of the first child for its own failure is denied, a receiver empties the channel,
and the next failure exhausts the budget. -/
theorem events_replay_denied_restart : ∃ s, create "sup" = .ok s ∧
    let denied : Denials := fun i => if i = 0 then some .notPermitted else none
    let channel : Channel Event := ⟨6, .plain, [], false⟩
    let boom := Failure.ofMessage "boom"
    let t := s.after [.register ⟨"b", none⟩ noDenials, .register ⟨"a", none⟩ noDenials,
      .strategy ((RestartStrategy.standard.withPolicy .oneForAll).withBudget 1 ⟨5⟩),
      .events (some channel)]
    let history :=
      [.stopStep 0, .stopStep 0, .exit 3 (.ok ()) 9 noDenials, .exit 2 (.ok ()) 9 noDenials,
      .exit 1 (.ok ()) 9 noDenials, .stopStep 0, .beginStop, .reportFailure 1 boom 9 noDenials,
      .events (some channel), .exit 0 (.error boom) 7 denied, .restartChild 1 noDenials,
      .start noDenials]
    t.reports history = [[.started 0 "sup.a" 1, .started 1 "sup.b" 1], [.restarted 1 "sup.b" 2],
      [.failed 0 "sup.a" boom.rendered, .restarted 1 "sup.b" 3], [],
      [.failed 1 "sup.b" boom.rendered, .limitExceeded 1 "sup.b"], [], [], [], [], [], [],
      [.stopped]] ∧
    t.log history = (t.reports history).flatten ∧
    ((t.log history).filterMap (·.generation? 1)).Pairwise (· < ·) ∧
    (t.log history).countP (·.tellsRestart 1) = 2 := by
  have hcreated : create "sup" = .ok _ := rfl
  refine ⟨_, hcreated, ?_⟩
  intro denied channel boom t history
  have ht : Reachable t := (Reachable.create hcreated).after _
  have hroom : ∀ earlier, earlier <:+ history → (t.after earlier).hasRoom = true :=
    fun earlier hsuffix =>
      (by decide +kernel : ∀ earlier ∈ history.tails, (t.after earlier).hasRoom = true)
      earlier ((List.mem_tails earlier history).2 hsuffix)
  obtain ⟨-, hlog, hchildren⟩ := events_replay ht rfl history hroom
  have hlast : (t.after history).children[1]?.map (·.restarts) = some 2 := by decide +kernel
  obtain ⟨c, hc, hcount⟩ := Option.map_eq_some_iff.1 hlast
  obtain ⟨hincreasing, -, hrestarts⟩ := hchildren 1 c hc
  exact ⟨by decide +kernel, hlog, hincreasing, hrestarts.trans hcount⟩

end Relay.Supervisor
