import Relay.Proofs.Net.Opening

namespace Relay

namespace Ledger

def socketsOf (endpoints : List Endpoint) : List Nat := endpoints.filterMap (·.socket.id?)

def Serves (w : Ledger) (e : Endpoint) : Prop :=
  ∃ p ∈ w.listeners, e.socket.id? = some p.1 ∧ p.2.isServing = true

/-- A listener is stopped, unless an endpoint listens with it. -/
def IsAnswered (endpoints : List Endpoint) (p : Nat × Listener) : Prop :=
  p.2.stopping = .stopped ∨ ∃ e ∈ endpoints, e.listening = true ∧ e.socket.id? = some p.1

structure SocketsOwned (endpoints : List Endpoint) (w : Ledger) : Prop where
  fits : ∀ e ∈ endpoints, e.socket.Fits e.address
  sockets : w.sockets.Perm (socketsOf endpoints)
  distinct : w.sockets.Nodup
  fresh : ∀ id ∈ w.sockets, id < w.next

structure ListenersOwned (endpoints : List Endpoint) (w : Ledger) : Prop where
  known : ∀ p ∈ w.listeners, p.1 < w.next ∧ p.2.Reachable
  serving : ∀ e ∈ endpoints, e.listening = true → w.Serves e
  answered : ∀ p ∈ w.listeners, IsAnswered endpoints p

/-- Endpoints own all that is open or runs on a machine. -/
structure Owned (endpoints : List Endpoint) (w : Ledger) : Prop extends SocketsOwned endpoints w,
  ListenersOwned endpoints w

variable {fates : Nat → Fate} {endpoints others : List Endpoint} {e : Endpoint} {u v w : Ledger} {id : Nat}
  {p : Nat × Listener}

theorem socketsOf_cons : socketsOf (e :: endpoints) = e.socket.id?.toList ++ socketsOf endpoints := by
  rw [socketsOf, List.filterMap_cons]
  cases e.socket.id? <;> rfl

theorem mem_socketsOf (he : e ∈ endpoints) (hid : e.socket.id? = some id) : id ∈ socketsOf endpoints :=
  List.mem_filterMap.2 ⟨e, he, hid⟩

theorem IsAnswered.mono (h : IsAnswered endpoints p)
    (hlistening : ∀ e ∈ endpoints, e.listening = true → e.socket.id? = some p.1 → e ∈ others) :
    IsAnswered others p := by
  obtain hstopped | ⟨e, he, hlistens, hid⟩ := h
  · exact .inl hstopped
  · exact .inr ⟨e, hlistening e he hlistens hid, hlistens, hid⟩

theorem Owned.initial : Owned [] .initial where
  fits _ he := (List.not_mem_nil he).elim
  sockets := .nil
  distinct := .nil
  fresh _ hid := (List.not_mem_nil hid).elim
  known _ hp := (List.not_mem_nil hp).elim
  serving _ he := (List.not_mem_nil he).elim
  answered _ hp := (List.not_mem_nil hp).elim

theorem Owned.perm (h : Owned endpoints w) (hperm : endpoints.Perm others) : Owned others w where
  fits e he := h.fits e (hperm.mem_iff.2 he)
  sockets := h.sockets.trans (hperm.filterMap _)
  distinct := h.distinct
  fresh := h.fresh
  known := h.known
  serving e he := h.serving e (hperm.mem_iff.2 he)
  answered p hp := (h.answered p hp).mono fun _ he _ _ => hperm.mem_iff.1 he

theorem Owned.apart {more : List Endpoint} (h : Owned (endpoints ++ others) w)
    (hperm : others.Perm (e :: more)) : Owned (e :: (endpoints ++ more)) w :=
  h.perm ((hperm.append_left endpoints).trans List.perm_middle)

theorem Owned.notMem (h : Owned (e :: endpoints) w) (hid : e.socket.id? = some id) :
    id ∉ socketsOf endpoints := by
  have hdistinct := h.sockets.nodup_iff.1 h.distinct
  rw [socketsOf_cons, hid] at hdistinct
  exact (List.nodup_cons.1 hdistinct).1

/-- The listeners of a socket that nobody owns are stopped, and have no thread left. -/
theorem Owned.retired (h : Owned endpoints w) (hid : id ∉ socketsOf endpoints) : id ∉ w.sockets ∧
    ∀ l, (id, l) ∈ w.listeners → l.stopping = .stopped ∧ l.isQuiet = true := by
  apply And.intro
  · intro hopen
    exact hid (h.sockets.mem_iff.1 hopen)
  · intro l hl
    obtain hstopped | ⟨e, he, -, howns⟩ := h.answered (id, l) hl
    · exact ⟨hstopped, (h.known (id, l) hl).2.isQuiet hstopped⟩
    · exact (hid (mem_socketsOf he howns)).elim

theorem SocketsOwned.rest (h : SocketsOwned endpoints w) (hsockets : v.sockets = w.sockets)
    (hnext : w.next ≤ v.next) : SocketsOwned endpoints v where
  fits := h.fits
  sockets := hsockets ▸ h.sockets
  distinct := hsockets ▸ h.distinct
  fresh := by
    rw [hsockets]
    intro id hid
    exact (h.fresh id hid).trans_le hnext

theorem SocketsOwned.setListening (h : SocketsOwned (e :: endpoints) w) (listening : Bool) :
    SocketsOwned ({ e with listening } :: endpoints) w where
  fits := by
    intro e' he'
    rcases List.mem_cons.1 he' with rfl | hother
    · exact h.fits e List.mem_cons_self
    · exact h.fits e' (List.mem_cons_of_mem _ hother)
  sockets := by
    have hsockets := h.sockets
    rw [socketsOf_cons] at hsockets ⊢
    exact hsockets
  distinct := h.distinct
  fresh := h.fresh

theorem SocketsOwned.add (h : SocketsOwned endpoints w) (hfits : e.socket.Fits e.address)
    (hgrown : Grown e.socket.id?.toList w v) : SocketsOwned (e :: endpoints) v where
  fits := by
    intro e' he'
    rcases List.mem_cons.1 he' with rfl | hother
    · exact hfits
    · exact h.fits e' hother
  sockets := by
    rw [hgrown.sockets, socketsOf_cons]
    exact h.sockets.append_left _
  distinct := by
    have halone : e.socket.id?.toList.Nodup := by cases e.socket.id? <;> simp
    have hnew : ∀ id ∈ e.socket.id?.toList, ∀ other ∈ w.sockets, id ≠ other := by
      rintro id hid _ hopen rfl
      exact (h.fresh id hopen).not_ge (hgrown.fresh id hid).1
    rw [hgrown.sockets]
    exact List.nodup_append.2 ⟨halone, h.distinct, hnew⟩
  fresh := by
    rw [hgrown.sockets]
    intro id hid
    rcases List.mem_append.1 hid with hnew | hold
    · exact (hgrown.fresh id hnew).2
    · exact (h.fresh id hold).trans_le hgrown.next

theorem SocketsOwned.forget (h : SocketsOwned (e :: endpoints) w) (hid : e.socket.id? = none) :
    SocketsOwned endpoints w where
  fits e' he' := h.fits e' (List.mem_cons_of_mem _ he')
  sockets := by
    have hsockets := h.sockets
    rw [socketsOf_cons, hid] at hsockets
    exact hsockets
  distinct := h.distinct
  fresh := h.fresh

theorem SocketsOwned.close (h : SocketsOwned (e :: endpoints) w) (hid : e.socket.id? = some id) :
    SocketsOwned endpoints (w.close id) where
  fits e' he' := h.fits e' (List.mem_cons_of_mem _ he')
  sockets := by
    have herased := h.sockets.erase id
    rw [socketsOf_cons, hid, Option.toList_some, List.singleton_append, List.erase_cons_head] at herased
    exact herased
  distinct := h.distinct.erase id
  fresh other hother := h.fresh other (List.mem_of_mem_erase hother)

theorem ListenersOwned.rest (h : ListenersOwned endpoints w) (hlisteners : v.listeners = w.listeners)
    (hnext : w.next ≤ v.next) : ListenersOwned endpoints v where
  known := by
    rw [hlisteners]
    intro p hp
    exact ⟨(h.known p hp).1.trans_le hnext, (h.known p hp).2⟩
  serving := by
    unfold Serves
    rw [hlisteners]
    exact h.serving
  answered := hlisteners ▸ h.answered

theorem ListenersOwned.add (h : ListenersOwned endpoints w) (hsilent : e.listening = false) :
    ListenersOwned (e :: endpoints) w where
  known := h.known
  serving := by
    intro e' he' hlistening
    rcases List.mem_cons.1 he' with rfl | hother
    · rw [hsilent] at hlistening
      cases hlistening
    · exact h.serving e' hother hlistening
  answered p hp := (h.answered p hp).mono fun _ he _ _ => List.mem_cons_of_mem _ he

theorem ListenersOwned.forget (h : ListenersOwned (e :: endpoints) w) (hsilent : e.listening = false) :
    ListenersOwned endpoints w where
  known := h.known
  serving e' he' := h.serving e' (List.mem_cons_of_mem _ he')
  answered := by
    intro p hp
    apply (h.answered p hp).mono
    intro e' he' hlistening _
    rcases List.mem_cons.1 he' with rfl | hrest
    · rw [hsilent] at hlistening
      cases hlistening
    · exact hrest

theorem ListenersOwned.serve {l : Listener} (h : ListenersOwned endpoints w)
    (hlistening : e.listening = true) (hid : e.socket.id? = some id) (hl : l.Reachable)
    (hserving : l.isServing = true) (hfresh : id < w.next) (hlisteners : v.listeners = (id, l) :: w.listeners)
    (hnext : w.next ≤ v.next) : ListenersOwned (e :: endpoints) v where
  known := by
    rw [hlisteners]
    intro p hp
    rcases List.mem_cons.1 hp with rfl | hold
    · exact ⟨hfresh.trans_le hnext, hl⟩
    · exact ⟨(h.known p hold).1.trans_le hnext, (h.known p hold).2⟩
  serving := by
    unfold Serves
    rw [hlisteners]
    intro e' he' hlistens
    rcases List.mem_cons.1 he' with rfl | hother
    · exact ⟨(id, l), List.mem_cons_self, hid, hserving⟩
    · obtain ⟨p, hp, hserves⟩ := h.serving e' hother hlistens
      exact ⟨p, List.mem_cons_of_mem _ hp, hserves⟩
  answered := by
    rw [hlisteners]
    intro p hp
    rcases List.mem_cons.1 hp with rfl | hold
    · exact .inr ⟨e, List.mem_cons_self, hlistening, hid⟩
    · exact (h.answered p hold).mono fun _ he _ _ => List.mem_cons_of_mem _ he

/-- The listeners of a socket are stopped, and all others left alone. -/
structure Halted (id : Nat) (w v : Ledger) : Prop where
  sockets : v.sockets = w.sockets
  next : w.next ≤ v.next
  listeners : ∃ events, v.listeners = w.listeners.map (goOn id events)
  stopped : ∀ p ∈ v.listeners, p.1 = id → p.2.stopping = .stopped

theorem yields_stopThreads : Yields ((host fates).stopThreads id) w fun _ v => Halted id w v := by
  apply yields_fate.bind
  intro fate v hv
  apply yields_get.bind
  rintro _ u ⟨rfl, rfl⟩
  dsimp only
  split
  · rename_i hall
    have hstopped : ∀ p ∈ u.listeners.map (goOn id fate.events), p.1 = id → p.2.stopping = .stopped := by
      intro p hp hid
      have hsettled := List.all_eq_true.1 hall p hp
      simpa [hid] using hsettled
    apply yields_modify
    exact ⟨hv.sockets, hv.next, ⟨fate.events, by rw [hv.listeners]⟩, hstopped⟩
  · exact ⟨nofun⟩

theorem goOn_of_ne {events : List Listener.Event} (hp : p.1 ≠ id) : goOn id events p = p := by
  have hother : (p.1 == id) = false := beq_false_of_ne hp
  simp only [goOn, hother, Bool.false_and, Bool.false_eq_true, if_false]

theorem goOn_reachable {events : List Listener.Event} (hp : p.2.Reachable) :
    (goOn id events p).2.Reachable := by
  simp only [goOn]
  split
  · cases hrun : p.2.run events with
    | none => exact hp
    | some m => exact hp.run events hrun
  · exact hp

theorem ListenersOwned.halt (h : ListenersOwned (e :: endpoints) w) (hid : e.socket.id? = some id)
    (hsole : id ∉ socketsOf endpoints) (hhalted : Halted id w v) : ListenersOwned endpoints v := by
  obtain ⟨events, hlisteners⟩ := hhalted.listeners
  have hkept {p : Nat × Listener} (hp : p ∈ w.listeners) (hother : p.1 ≠ id) : p ∈ v.listeners := by
    rw [hlisteners]
    exact List.mem_map.2 ⟨p, hp, goOn_of_ne hother⟩
  exact {
    known := by
      rw [hlisteners]
      intro p hp
      obtain ⟨q, hq, rfl⟩ := List.mem_map.1 hp
      exact ⟨(h.known q hq).1.trans_le hhalted.next, goOn_reachable (h.known q hq).2⟩
    serving := by
      intro e' he' hlistening
      obtain ⟨p, hp, hserves, hserving⟩ := h.serving e' (List.mem_cons_of_mem _ he') hlistening
      have hother : p.1 ≠ id := by
        intro hsame
        exact hsole (hsame ▸ mem_socketsOf he' hserves)
      exact ⟨p, hkept hp hother, hserves, hserving⟩
    answered := by
      intro p hp
      by_cases hown : p.1 = id
      · exact .inl (hhalted.stopped p hp hown)
      · rw [hlisteners] at hp
        obtain ⟨q, hq, rfl⟩ := List.mem_map.1 hp
        have hother : q.1 ≠ id := hown
        rw [goOn_of_ne hother]
        apply (h.answered q hq).mono
        intro e' he' _ howns
        rcases List.mem_cons.1 he' with rfl | hrest
        · rw [hid] at howns
          exact (hother (Option.some.inj howns).symm).elim
        · exact hrest }

theorem ListenersOwned.work {i : Nat} {m : Listener} {event : Listener.Event} (h : ListenersOwned endpoints w)
    (hi : w.listeners[i]? = some p) (hstep : p.2.step event = some m) (hs : m.stopping = p.2.stopping) :
    ListenersOwned endpoints { w with listeners := w.listeners.modify i fun p => (p.1, m) } where
  known := by
    apply forall_mem_modify_at (Q := fun q => q.1 < w.next ∧ q.2.Reachable) i h.known
    · exact fun _ hknown => hknown
    · intro q hq hknown
      rw [hi] at hq
      cases hq
      exact ⟨hknown.1, hknown.2.step event hstep⟩
  serving := by
    intro e he hlistening
    obtain ⟨hid, hserving⟩ | hothers := exists_mem_modify (fun p => (p.1, m)) hi (h.serving e he hlistening)
    · exact ⟨(p.1, m), mem_modify_of_getElem? _ hi, hid, (Listener.step_moved hstep).isServing hs hserving⟩
    · exact hothers
  answered := by
    apply forall_mem_modify_at (Q := IsAnswered endpoints) i h.answered
    · exact fun _ hanswered => hanswered
    · intro q hq hanswered
      rw [hi] at hq
      cases hq
      obtain hstopped | howned := hanswered
      · exact .inl (hs.trans hstopped)
      · exact .inr howned

theorem Owned.rest (h : Owned endpoints w) (hgrown : Grown [] w v) : Owned endpoints v :=
  ⟨h.toSocketsOwned.rest hgrown.sockets hgrown.next, h.toListenersOwned.rest hgrown.listeners hgrown.next⟩

theorem Owned.arrive (h : Owned endpoints w) (harrived : Arrived e w v) : Owned (e :: endpoints) v := by
  cases hlistening : e.listening with
  | false =>
    have hgrown := harrived.silent hlistening
    have hlisteners := h.toListenersOwned.rest hgrown.listeners hgrown.next
    exact ⟨h.toSocketsOwned.add harrived.fits hgrown, hlisteners.add hlistening⟩
  | true =>
    obtain ⟨id, hid, hgrown, l, hl, hserving, hlisteners⟩ := harrived.serving hlistening
    -- First comes the socket, and then the listener.
    let opened : Ledger := { v with listeners := w.listeners }
    have hsockets : SocketsOwned (e :: endpoints) opened := by
      apply h.toSocketsOwned.add harrived.fits
      rw [hid]
      exact hgrown
    have hrest : ListenersOwned endpoints opened := h.toListenersOwned.rest rfl hgrown.next
    have hfresh : id < opened.next := (hgrown.fresh id (List.mem_singleton_self id)).2
    have hlast : opened.next ≤ v.next := Nat.le_refl _
    exact ⟨hsockets.rest rfl hlast, hrest.serve hlistening hid hl hserving hfresh hlisteners hlast⟩

theorem setListening_of_silent (hsilent : e.listening = false) : { e with listening := false } = e := by
  rw [← hsilent]

theorem Owned.shutdown (h : Owned (e :: endpoints) w) : Yields (e.shutdown (host fates)) w fun e' v =>
    e' = { e with listening := false } ∧ Owned (e' :: endpoints) v := by
  cases hlistening : e.listening with
  | false =>
    rw [shutdown_of_silent hlistening]
    exact .pure ⟨(setListening_of_silent hlistening).symm, h⟩
  | true =>
    obtain ⟨p, -, hid, -⟩ := h.serving e List.mem_cons_self hlistening
    unfold Endpoint.shutdown
    rw [hlistening, hid]
    apply yields_stopThreads.bind
    intro _ v hv
    have hsockets := (h.toSocketsOwned.setListening false).rest hv.sockets hv.next
    have hlisteners := h.toListenersOwned.halt hid (h.notMem hid) hv
    exact .pure ⟨rfl, hsockets, hlisteners.add rfl⟩

theorem Owned.drop (h : Owned (e :: endpoints) w) :
    Yields (e.drop (host fates)) w fun _ v => Owned endpoints v := by
  apply h.shutdown.bind
  rintro _ v ⟨rfl, hv⟩
  have hlisteners := hv.toListenersOwned.forget rfl
  cases hid : e.socket.id? with
  | none => exact .pure ⟨hv.toSocketsOwned.forget hid, hlisteners⟩
  | some id =>
    apply yields_modify
    exact ⟨hv.toSocketsOwned.close hid, hlisteners.rest rfl (Nat.le_refl _)⟩

end Ledger

end Relay
