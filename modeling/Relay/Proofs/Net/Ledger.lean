import Relay.Net.Distributed
import Relay.Proofs.Net.Listening

namespace Relay

/-- What becomes of a request, as far as it applies to it. -/
structure Ledger.Fate where
  refusal : Option SystemError
  addresses : Except SystemError (List SocketAddress)
  noThread : Option String
  events : List Listener.Event

/-- A request to send bytes through a socket, perhaps to a peer, and what it came to. -/
structure Ledger.Sending where
  socket : Nat
  peer : Option SocketAddress
  bytes : Frame.Bytes
  result : Except SystemError Unit

/-- The number of requests so far, the number of the next socket, the open sockets, the listeners with the
sockets that they serve, and the requests to send, earliest first. -/
structure Ledger where
  requests : Nat
  next : Nat
  sockets : List Nat
  listeners : List (Nat × Listener)
  sendings : List Ledger.Sending

/-- Whether a listener was started and not stopped: the call that spawned its first thread has returned. -/
def Listener.isServing (l : Listener) : Bool :=
  !l.isCancelled && (l.pool.result? 0).any (·.isOk)

theorem Listener.Moved.done {l m : Listener} {event : Listener.Event} {i : Nat}
    {result : Except Spawn.Error Nat} (h : Listener.Moved l event m)
    (hdone : l.pool.phase? i = some (.done result)) : m.pool.phase? i = some (.done result) := by
  cases h with
  | accept _ _ hpool | pool _ hpool | first _ hpool | second _ _ hpool =>
    exact (Spawn.Pool.step_stepped hpool).done hdone
  | _ => exact hdone

theorem Listener.Moved.isServing {l m : Listener} {event : Listener.Event}
    (h : Listener.Moved l event m) (hs : m.stopping = l.stopping) (hl : l.isServing = true) :
    m.isServing = true := by
  obtain ⟨hrunning, hstarted⟩ := Bool.and_eq_true_iff.1 hl
  obtain ⟨result, hresult, hok⟩ := (Option.any_eq_true _ _).1 hstarted
  have hdone := h.done (Spawn.Pool.result?_eq_some_iff.1 hresult)
  have hgoesOn : m.isCancelled = l.isCancelled := by rw [Listener.isCancelled, hs, Listener.isCancelled]
  rw [Listener.isServing, hgoesOn, hrunning, Spawn.Pool.result?_eq_some_iff.2 hdone, Option.any_some,
    hok]
  rfl

namespace Ledger

def initial : Ledger := ⟨0, 0, [], [], []⟩

section Host

variable {α : Type} (fates : Nat → Fate)

def fate : StateT Ledger Option Fate :=
  modifyGet fun w => (fates w.requests, { w with requests := w.requests + 1 })

def request (effect : Ledger → α × Ledger) : StateT Ledger Option (Except SystemError α) := do
  match (← fate fates).refusal with
  | some cause => return .error cause
  | none => return .ok (← modifyGet effect)

def add (w : Ledger) : Nat × Ledger :=
  (w.next, { w with sockets := w.next :: w.sockets, next := w.next + 1 })

def send (socket : Nat) (peer : Option SocketAddress) (bytes : Frame.Bytes) :
    StateT Ledger Option (Except SystemError Unit) := do
  let result := match (← fate fates).refusal with
    | some cause => .error cause
    | none => .ok ()
  modify fun w => { w with sendings := w.sendings ++ [⟨socket, peer, bytes, result⟩] }
  return result

/-- The threads of a new listener own the handle that they are given. -/
def startThread (socket handle : Nat) : StateT Ledger Option (Option String) := do
  let fate ← fate fates
  match fate.noThread, Listener.start.run fate.events with
  | some cause, _ => return some cause
  | none, some l =>
    if l.isServing then
      modify fun w => { w with
        sockets := w.sockets.erase handle, listeners := (socket, l) :: w.listeners }
      return none
    else failure
  | none, none => failure

def goOn (socket : Nat) (events : List Listener.Event) (p : Nat × Listener) : Nat × Listener :=
  (p.1, if p.1 == socket && !p.2.isCancelled then (p.2.run events).getD p.2 else p.2)

/-- A stop returns once the listener is stopped. -/
def stopThreads (socket : Nat) : StateT Ledger Option Unit := do
  let fate ← fate fates
  let listeners := (← get).listeners.map (goOn socket fate.events)
  if listeners.all fun p => p.1 != socket || p.2.stopping == .stopped then
    modify fun w => { w with listeners }
  else failure

def close (w : Ledger) (socket : Nat) : Ledger := { w with sockets := w.sockets.erase socket }

def host : Host (StateT Ledger Option) where
  resolve _ _ := return (← fate fates).addresses
  openStream _ := request fates add
  openDatagram _ := request fates add
  configure _ _ := request fates (((), ·))
  bind _ _ := request fates (((), ·))
  listen _ _ := request fates (((), ·))
  connect _ _ := request fates (((), ·))
  duplicate _ := request fates add
  write socket bytes := send fates socket none bytes
  sendTo socket peer bytes := send fates socket (some peer) bytes
  localAddress _ := return none
  startThread := startThread fates
  stopThreads := stopThreads fates
  close socket := modify (·.close socket)
  countSent _ := return

end Host

/-- What holds whenever a computation returns. -/
structure Yields {α : Type} (x : StateT Ledger Option α) (w : Ledger) (P : α → Ledger → Prop) :
    Prop where
  returns : ∀ a v, x.run w = some (a, v) → P a v

section Yields

variable {α β : Type} {x : StateT Ledger Option α} {f : α → StateT Ledger Option β} {w : Ledger}
  {P Q : α → Ledger → Prop} {R : β → Ledger → Prop}

theorem Yields.pure {a : α} (h : P a w) : Yields (Pure.pure a) w P := by
  constructor
  intro b v hrun
  cases hrun
  exact h

theorem Yields.bind (hx : Yields x w P) (hf : ∀ a v, P a v → Yields (f a) v R) :
    Yields (x >>= f) w R := by
  constructor
  intro b u hrun
  rw [StateT.run_bind] at hrun
  obtain ⟨⟨a, v⟩, hfirst, hrest⟩ := Option.bind_eq_some_iff.1 hrun
  exact (hf a v (hx.returns a v hfirst)).returns b u hrest

theorem Yields.mono (hx : Yields x w P) (h : ∀ a v, P a v → Q a v) : Yields x w Q := by
  constructor
  intro a v hrun
  exact h a v (hx.returns a v hrun)

theorem yields_modify {g : Ledger → Ledger} {P : PUnit → Ledger → Prop} (h : P ⟨⟩ (g w)) :
    Yields (modify g) w P := by
  constructor
  intro a v hrun
  cases hrun
  exact h

theorem yields_get : Yields get w fun a v => a = w ∧ v = w := by
  constructor
  intro a v hrun
  cases hrun
  exact ⟨rfl, rfl⟩

end Yields

/-- Some sockets were opened, and nothing else has happened. -/
structure Grown (ids : List Nat) (w v : Ledger) : Prop where
  sockets : v.sockets = ids ++ w.sockets
  listeners : v.listeners = w.listeners
  next : w.next ≤ v.next
  fresh : ∀ id ∈ ids, w.next ≤ id ∧ id < v.next

section Grown

variable {ids more : List Nat} {u v w : Ledger} {id : Nat}

theorem Grown.refl (w : Ledger) : Grown [] w w :=
  ⟨rfl, rfl, Nat.le_refl _, nofun⟩

theorem Grown.trans (h : Grown ids w v) (hmore : Grown more v u) : Grown (more ++ ids) w u where
  sockets := by rw [hmore.sockets, h.sockets, List.append_assoc]
  listeners := hmore.listeners.trans h.listeners
  next := h.next.trans hmore.next
  fresh := by
    intro id hid
    rcases List.mem_append.1 hid with hnew | hold
    · exact ⟨h.next.trans (hmore.fresh id hnew).1, (hmore.fresh id hnew).2⟩
    · exact ⟨(h.fresh id hold).1, (h.fresh id hold).2.trans_le hmore.next⟩

theorem Grown.add (w : Ledger) : Grown [w.next] w w.add.2 where
  sockets := rfl
  listeners := rfl
  next := Nat.le_succ _
  fresh := by
    intro id hid
    rw [List.mem_singleton.1 hid]
    exact ⟨Nat.le_refl _, Nat.lt_succ_self _⟩

theorem Grown.close (h : Grown (id :: ids) w v) : Grown ids w (v.close id) where
  sockets := by rw [Ledger.close, h.sockets, List.cons_append, List.erase_cons_head]
  listeners := h.listeners
  next := h.next
  fresh other hother := h.fresh other (List.mem_cons_of_mem id hother)

end Grown

end Ledger

end Relay
