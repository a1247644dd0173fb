import Relay.Proofs.Net.Ownership

namespace Relay

open Ledger (host Owned Serves)

variable {k : Message.Kind}

/-- A channel with its endpoint, the other endpoints on its machine, and the machine. -/
structure Station (k : Message.Kind) where
  line : Distributed k
  others : List Endpoint
  machine : Ledger

namespace Station

def endpoints (s : Station k) : List Endpoint := s.line.endpoint.toList ++ s.others

/-- What can happen to a station. Its own endpoint, once taken off, is one of the others. -/
inductive Moved (fates : Nat → Ledger.Fate) (s : Station k) : Station k → Prop
  | attach {url : String} {result : Except Endpoint.Error Unit} {line : Distributed k} {machine : Ledger}
      (h : (s.line.attach (host fates) url).run s.machine = some ((result, line), machine)) :
      Moved fates s ⟨line, s.others, machine⟩
  | detach : Moved fates s ⟨s.line.detach.2, s.line.detach.1.toList ++ s.others, s.machine⟩
  | shutdown {line : Distributed k} {machine : Ledger}
      (h : (s.line.shutdown (host fates)).run s.machine = some (line, machine)) :
      Moved fates s ⟨line, s.others, machine⟩
  | arrive {permissions : Permissions} {transport : Transport} {url : String}
      {result : Except Endpoint.Error Endpoint} {machine : Ledger}
      (h : (Distributed.openEndpoint (host fates) permissions transport url).run s.machine =
        some (result, machine)) :
      Moved fates s ⟨s.line, result.toOption.toList ++ s.others, machine⟩
  | rest {e e' : Endpoint} {others : List Endpoint} {machine : Ledger} (hothers : s.others.Perm (e :: others))
      (h : (e.shutdown (host fates)).run s.machine = some (e', machine)) :
      Moved fates s ⟨s.line, e' :: others, machine⟩
  | drop {e : Endpoint} {others : List Endpoint} {machine : Ledger} (hothers : s.others.Perm (e :: others))
      (h : (e.drop (host fates)).run s.machine = some ((), machine)) :
      Moved fates s ⟨s.line, others, machine⟩
  | use (channel : Channel k.Value) (permissions : Permissions) (transport : Transport) (requests : Nat)
      (sendings : List Ledger.Sending) :
      Moved fates s ⟨⟨channel, s.line.endpoint, permissions, transport⟩, s.others,
        { s.machine with requests, sendings }⟩
  | work {i id : Nat} {l m : Listener} {event : Listener.Event} (hi : s.machine.listeners[i]? = some (id, l))
      (h : l.step event = some m) (hs : m.stopping = l.stopping) :
      Moved fates s { s with machine := { s.machine with
        listeners := s.machine.listeners.modify i fun p => (p.1, m) } }

/-- The stations that can come about, whatever becomes of the requests. -/
inductive Reachable (fates : Nat → Ledger.Fate) : Station k → Prop
  | start (channel : Channel k.Value) (permissions : Permissions) (transport : Transport) :
      Reachable fates ⟨.ofChannel channel permissions transport, [], .initial⟩
  | step {s t : Station k} : Reachable fates s → Moved fates s t → Reachable fates t

section Attach

variable {fates : Nat → Ledger.Fate} {s t : Station k} {d : Distributed k} {url : String} {w : Ledger}
  {others : List Endpoint}

/-- What an attempt to attach comes to. -/
def Attached (d : Distributed k) (url : String) (others : List Endpoint) (w : Ledger) :
    Except Endpoint.Error Unit × Distributed k → Ledger → Prop
  | (.error _, line), v => line = d ∧ Ledger.Grown [] w v
  | (.ok (), line), v => ∃ new : Endpoint, line = { d with endpoint := some new } ∧
    Address.parse url = .ok new.address ∧
    (new.listening = true ↔ new.isServer = true ∧ new.address.protocol ≠ .inproc) ∧
    Owned (new :: others) v ∧
    ∀ old, d.endpoint = some old → ∀ id, old.socket.id? = some id →
      id ∉ Ledger.socketsOf (new :: others)

theorem yields_attach (h : Owned (d.endpoint.toList ++ others) w) :
    Ledger.Yields (d.attach (host fates) url) w (Attached d url others w) := by
  apply Ledger.yields_openEndpoint.bind
  intro r v hv
  cases r with
  | error e => exact .pure ⟨rfl, hv⟩
  | ok new =>
    obtain ⟨hparse, harrived⟩ := hv
    have howned := h.arrive harrived
    cases hold : d.endpoint with
    | none =>
      rw [hold] at howned
      have hretired : ∀ old, d.endpoint = some old → ∀ id, old.socket.id? = some id →
          id ∉ Ledger.socketsOf (new :: others) := by
        intro old hsome
        rw [hold] at hsome
        cases hsome
      exact .pure ⟨new, rfl, hparse, harrived.listens, howned, hretired⟩
    | some old =>
      rw [hold] at howned
      have hswapped : Owned (old :: new :: others) v := howned.perm (.swap old new others)
      have hretired : ∀ old, d.endpoint = some old → ∀ id, old.socket.id? = some id →
          id ∉ Ledger.socketsOf (new :: others) := by
        intro _ hsome id hid
        rw [hold] at hsome
        cases hsome
        exact hswapped.notMem hid
      apply hswapped.drop.bind
      intro _ u hu
      exact .pure ⟨new, rfl, hparse, harrived.listens, hu, hretired⟩

theorem yields_shutdown (h : Owned (d.endpoint.toList ++ others) w) :
    Ledger.Yields (d.shutdown (host fates)) w fun line v => line.endpoint = none ∧ Owned others v := by
  unfold Distributed.shutdown
  cases hold : d.endpoint with
  | none =>
    rw [hold] at h
    exact .pure ⟨rfl, h⟩
  | some old =>
    rw [hold] at h
    apply Ledger.Owned.drop h |>.bind
    intro _ v hv
    exact .pure ⟨rfl, hv⟩

theorem Moved.owned (h : Moved fates s t) (hs : Owned s.endpoints s.machine) :
    Owned t.endpoints t.machine := by
  cases h with
  | @attach url result line machine h =>
    have hattached := (yields_attach hs).returns _ _ h
    cases result with
    | error e =>
      obtain ⟨rfl, hgrown⟩ := hattached
      exact hs.rest hgrown
    | ok =>
      obtain ⟨new, rfl, -, -, howned, -⟩ := hattached
      exact howned
  | detach => exact hs
  | shutdown h =>
    obtain ⟨hnone, howned⟩ := (yields_shutdown hs).returns _ _ h
    unfold endpoints
    rw [hnone]
    exact howned
  | @arrive permissions transport url result machine h =>
    have hserved := Ledger.yields_openEndpoint.returns _ _ h
    cases result with
    | error e => exact hs.rest hserved
    | ok e => exact (hs.arrive hserved.2).perm List.perm_middle.symm
  | rest hothers h =>
    obtain ⟨-, howned⟩ := (hs.apart hothers).shutdown.returns _ _ h
    exact howned.perm List.perm_middle.symm
  | drop hothers h => exact (hs.apart hothers).drop.returns _ _ h
  | use channel permissions transport requests sendings => exact hs.rest ⟨rfl, rfl, Nat.le_refl _, nofun⟩
  | work hi h hstopping =>
    exact ⟨hs.toSocketsOwned.rest rfl (Nat.le_refl _), hs.toListenersOwned.work hi h hstopping⟩

theorem Reachable.owned (hs : Reachable fates s) : Owned s.endpoints s.machine := by
  induction hs with
  | start => exact .initial
  | step _ hmoved ih => exact hmoved.owned ih

theorem Reachable.fits (hs : Reachable fates s) {e : Endpoint} (hattached : s.line.endpoint = some e) :
    e.socket.Fits e.address := by
  apply hs.owned.fits
  exact List.mem_append_left _ (Option.mem_toList.2 hattached)

/-- If attaching fails, the channel with its endpoint, the sockets and the listeners are as they were, so that
an endpoint that listened still does. If it succeeds, the new endpoint is in place and listens if it is a server
outside the process, and the socket of the old one is closed, with no thread left of any listener on it. -/
theorem attach_atomic {result : Except Endpoint.Error Unit} {line : Distributed k} {machine : Ledger}
    (hs : Reachable fates s)
    (h : (s.line.attach (host fates) url).run s.machine = some ((result, line), machine)) :
    (∀ e, result = .error e → line = s.line ∧ machine.sockets = s.machine.sockets ∧
      machine.listeners = s.machine.listeners ∧
      ∀ old, s.line.endpoint = some old → old.listening = true → machine.Serves old) ∧
    (result = .ok () → ∃ new : Endpoint, line = { s.line with endpoint := some new } ∧
      Address.parse url = .ok new.address ∧
      (new.listening = true ↔ new.isServer = true ∧ new.address.protocol ≠ .inproc) ∧
      (new.listening = true → machine.Serves new) ∧
      ∀ old, s.line.endpoint = some old → ∀ id, old.socket.id? = some id → id ∉ machine.sockets ∧
        ∀ l, (id, l) ∈ machine.listeners → l.stopping = .stopped ∧ l.isQuiet = true) := by
  have hattached := (yields_attach hs.owned).returns _ _ h
  constructor
  · rintro e rfl
    obtain ⟨hline, hgrown⟩ := hattached
    have hserves : ∀ old, s.line.endpoint = some old → old.listening = true → machine.Serves old := by
      intro old hold hlistening
      have hmem : old ∈ s.endpoints := List.mem_append_left _ (Option.mem_toList.2 hold)
      exact (hs.owned.rest hgrown).serving old hmem hlistening
    exact ⟨hline, hgrown.sockets, hgrown.listeners, hserves⟩
  · rintro rfl
    obtain ⟨new, hline, hparse, hlistens, howned, hretired⟩ := hattached
    have hserves := howned.serving new List.mem_cons_self
    exact ⟨new, hline, hparse, hlistens, hserves, fun old hold id hid =>
      howned.retired (hretired old hold id hid)⟩

/-- A server is attached; a second one finds its port taken; a third one takes its place. -/
theorem attach_atomic_port_taken : ∃ (fates : Nat → Ledger.Fate) (s : Station .raw) (old : Endpoint)
    (refused replaced : Ledger), Reachable fates s ∧ s.line.endpoint = some old ∧ old.listening = true ∧
    (s.line.attach (host fates) "tcp://*:80").run s.machine =
      some ((.error (.notBound ⟨.tcp, "0.0.0.0", some 80, true⟩ .addressInUse), s.line), refused) ∧
    refused.Serves old ∧ refused.sockets = [0] ∧
    ∃ line, (s.line.attach (host fates) "udp://*:81").run refused = some ((.ok (), line), replaced) ∧
      ∀ l, (0, l) ∈ replaced.listeners → l.isQuiet = true := by
  let begun : List Listener.Event := [.pool (.ask 0 true), .pool (.look 0), .pool (.create 0 none),
    .pool (.lock 0), .pool (.inspect 0)]
  let ended : List Listener.Event := [.cancel, .takeHandles, .look, .pool (.release 0), .pool (.exit 0),
    .pool (.joinNext 0), .takeHandles, .endPass]
  let fates (n : Nat) : Ledger.Fate :=
    ⟨if n = 9 then some .addressInUse else none, .ok [], none, if n = 15 then ended else begun⟩
  let calls : List Spawn.Call := [⟨Listener.config.threadName 0, .done (.ok 0)⟩]
  let serving : Listener :=
    ⟨⟨Listener.config, 1, calls, [.running], 0, 1, [0], [], []⟩, .looking, .running⟩
  let stopped : Listener :=
    ⟨⟨Listener.config, 0, calls, [.finished], 1, 1, [], [[], []], [0]⟩, .ended, .stopped⟩
  let old : Endpoint := ⟨⟨.tcp, "0.0.0.0", some 80, true⟩, .standard, .allowAll, .streamServer 0, true⟩
  let new : Endpoint := ⟨⟨.udp, "0.0.0.0", some 81, true⟩, .standard, .allowAll, .datagramServer 3, true⟩
  let bare : Distributed .raw := .ofChannel ⟨1, .plain, [], false⟩ .allowAll .standard
  let s : Station .raw := ⟨{ bare with endpoint := some old }, [], ⟨7, 2, [0], [(0, serving)], []⟩⟩
  let refused : Ledger := ⟨10, 3, [0], [(0, serving)], []⟩
  let replaced : Ledger := ⟨16, 5, [3], [(3, serving), (0, stopped)], []⟩
  have hfirst : (bare.attach (host fates) "tcp://*:80").run .initial =
      some ((.ok (), s.line), s.machine) := rfl
  have hs : Reachable fates s := (Reachable.start ⟨1, .plain, [], false⟩ .allowAll .standard).step (.attach hfirst)
  have hsecond : (s.line.attach (host fates) "tcp://*:80").run s.machine =
      some ((.error (.notBound ⟨.tcp, "0.0.0.0", some 80, true⟩ .addressInUse), s.line), refused) := rfl
  have hthird : (s.line.attach (host fates) "udp://*:81").run refused =
      some ((.ok (), { s.line with endpoint := some new }), replaced) := rfl
  obtain ⟨-, hsockets, -, hserves⟩ := (attach_atomic hs hsecond).1 _ rfl
  obtain ⟨_, -, -, -, -, hretired⟩ := (attach_atomic (hs.step (.attach hsecond)) hthird).2 rfl
  refine ⟨fates, s, old, refused, replaced, hs, rfl, rfl, hsecond, hserves old rfl rfl, hsockets, _, hthird, ?_⟩
  intro l hl
  exact ((hretired old rfl 0 rfl).2 l hl).2

end Attach

end Station

end Relay
