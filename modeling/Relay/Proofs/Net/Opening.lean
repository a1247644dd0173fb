import Relay.Proofs.Net.Ledger

namespace Relay

/-- The socket that an endpoint at an address works with. -/
def Endpoint.Socket.Fits (address : Address) : Endpoint.Socket → Prop
  | .none => address.protocol = .inproc
  | .streamServer _ => address.protocol = .tcp ∧ address.isServer = true
  | .stream _ => address.protocol = .tcp ∧ address.isServer = false
  | .datagramServer _ => address.protocol.isDatagram = true ∧ address.isServer = true
  | .datagram _ _ => address.protocol.isDatagram = true ∧ address.isServer = false

section Fits

variable {address : Address} {socket : Endpoint.Socket}

theorem Endpoint.Socket.Fits.outside {id : Nat} (h : socket.Fits address) (hid : socket.id? = some id) :
    address.protocol ≠ .inproc := by
  intro hinside
  cases socket with
  | none => cases hid
  | _ =>
    have hprotocol := h.1
    rw [hinside] at hprotocol
    cases hprotocol

theorem Endpoint.Socket.Fits.of_client (h : socket.Fits address) (hclient : address.isServer = false) :
    (socket = .none ∧ address.protocol = .inproc) ∨
    (∃ id, socket = .stream id ∧ address.protocol = .tcp) ∨
    ∃ id peer, socket = .datagram id peer ∧ address.protocol.isDatagram = true := by
  cases socket with
  | none => exact .inl ⟨rfl, h⟩
  | stream id => exact .inr (.inl ⟨id, rfl, h.1⟩)
  | datagram id peer => exact .inr (.inr ⟨id, peer, rfl, h.1⟩)
  | streamServer | datagramServer =>
    have hserver := h.2
    rw [hclient] at hserver
    cases hserver

theorem Endpoint.Socket.Fits.of_server (h : socket.Fits address) (hserver : address.isServer = true) :
    (socket = .none ∧ address.protocol = .inproc) ∨
    ∃ id, socket = .streamServer id ∨ socket = .datagramServer id := by
  cases socket with
  | none => exact .inl ⟨rfl, h⟩
  | streamServer id => exact .inr ⟨id, .inl rfl⟩
  | datagramServer id => exact .inr ⟨id, .inr rfl⟩
  | stream | datagram =>
    have hclient := h.2
    rw [hserver] at hclient
    cases hclient

end Fits

namespace Ledger

variable {α β : Type} {fates : Nat → Fate} {w : Ledger} {address : Address} {transport : Transport}
  {port id : Nat}

theorem yields_fate : Yields (fate fates) w fun _ v => Grown [] w v := by
  constructor
  intro a v hrun
  cases hrun
  exact ⟨rfl, rfl, Nat.le_refl _, nofun⟩

theorem yields_request {effect : Ledger → α × Ledger} {P : Except SystemError α → Ledger → Prop}
    (hrefused : ∀ cause v, Grown [] w v → P (.error cause) v)
    (hdone : ∀ v, Grown [] w v → P (.ok (effect v).1) (effect v).2) :
    Yields (request fates effect) w P := by
  apply yields_fate.bind
  intro fate v hv
  cases fate.refusal with
  | some cause => exact .pure (hrefused cause v hv)
  | none =>
    constructor
    intro r u hrun
    cases hrun
    exact hdone v hv

theorem yields_open : Yields (request fates add) w fun r v =>
    Grown (r.toOption.toList) w v := by
  apply yields_request
  · intro cause v hv
    exact hv
  · intro v hv
    exact hv.trans (.add v)

/-- A computation that opens and closes nothing. -/
structure Steady (x : StateT Ledger Option α) : Prop where
  yields : ∀ w, Yields x w fun _ v => Grown [] w v

theorem Steady.pure (a : α) : Steady (Pure.pure a) := by
  constructor
  intro w
  exact .pure (.refl w)

theorem Steady.bind {x : StateT Ledger Option α} {f : α → StateT Ledger Option β} (hx : Steady x)
    (hf : ∀ a, Steady (f a)) : Steady (x >>= f) := by
  constructor
  intro w
  apply (hx.yields w).bind
  intro a v hv
  apply ((hf a).yields v).mono
  intro b u hu
  exact hv.trans hu

theorem Steady.except_bind {ε : Type} {x : ExceptT ε (StateT Ledger Option) α}
    {f : α → ExceptT ε (StateT Ledger Option) β} (hx : Steady x.run) (hf : ∀ a, Steady (f a).run) :
    Steady (x >>= f).run := by
  apply Steady.bind hx
  intro r
  cases r with
  | ok a => exact hf a
  | error e => exact .pure _

theorem steady_request : Steady (request fates (((), ·))) := by
  constructor
  intro w
  apply yields_request
  · exact fun _ _ hv => hv
  · exact fun _ hv => hv

theorem Steady.asked {request : StateT Ledger Option (Except SystemError α)}
    {refused : SystemError → Endpoint.Error} (h : Steady request) :
    Steady (Endpoint.asked request refused).run := by
  apply Steady.bind h
  intro r
  exact .pure _

theorem steady_configure (setting : SocketSetting) :
    Steady (Endpoint.configure (host fates) address id setting).run :=
  steady_request.asked

theorem steady_bind : Steady (Endpoint.bind (host fates) address port id).run := by
  apply (steady_configure _).except_bind
  intro _
  exact steady_request.asked

theorem steady_bindStream : Steady (Endpoint.bindStream (host fates) address transport port id).run := by
  apply steady_bind.except_bind
  intro _
  apply steady_request.asked.except_bind
  intro _
  exact steady_configure _

/-- A socket that fits its address was opened, or none is left. -/
def Opened (address : Address) (w : Ledger) : Except Endpoint.Error Endpoint.Socket → Ledger → Prop
  | .ok socket, v => socket.Fits address ∧ Grown socket.id?.toList w v
  | .error _, v => Grown [] w v

/-- Whatever fails after a socket was opened closes it. -/
theorem yields_close {ids : List Nat} {v : Ledger} {r : α} {P : α → Ledger → Prop}
    (hv : Grown (id :: ids) w v) (hP : ∀ u, Grown ids w u → P r u) :
    Yields (do (host fates).close id; return r) v P := by
  apply (yields_modify (P := fun _ u => Grown ids w u) hv.close).bind
  intro _ u hu
  exact .pure (hP u hu)

theorem yields_prepared {prepare : Nat → ExceptT Endpoint.Error (StateT Ledger Option) Unit}
    {socket : Nat → Endpoint.Socket} (hprepare : ∀ id, Steady (prepare id).run)
    (hfits : ∀ id, (socket id).Fits address) (hid : ∀ id, (socket id).id? = some id) :
    Yields (Endpoint.prepared (host fates) address (request fates add) prepare socket) w
      (Opened address w) := by
  apply yields_open.bind
  intro r v hv
  cases r with
  | error cause => exact .pure hv
  | ok id =>
    apply ((hprepare id).yields v).bind
    intro r u hu
    have hgrown : Grown [id] w u := hv.trans hu
    cases r with
    | ok => exact .pure ⟨hfits id, by rwa [hid]⟩
    | error e => exact yields_close hgrown fun _ h => h

theorem yields_connectFirst (htcp : address.protocol = .tcp) (hclient : address.isServer = false)
    (last : SystemError) (peers : List SocketAddress) :
    Yields (Endpoint.connectFirst (host fates) address last peers) w (Opened address w) := by
  induction peers generalizing w last with
  | nil => exact .pure (.refl w)
  | cons peer rest ih =>
    apply yields_open.bind
    intro r v hv
    cases r with
    | error cause => exact .pure hv
    | ok id =>
      apply (steady_request.yields v).bind
      intro r u hu
      have hgrown : Grown [id] w u := hv.trans hu
      cases r with
      | error cause =>
        apply (yields_modify (P := fun _ u => Grown [] w u) hgrown.close).bind
        intro _ t ht
        apply (ih cause).mono
        intro r s hs
        cases r with
        | ok socket => exact ⟨hs.1, by simpa using ht.trans hs.2⟩
        | error e => exact ht.trans hs
      | ok =>
        apply ((steady_configure _).yields u).bind
        intro r t ht
        have hconnected : Grown [id] w t := hgrown.trans ht
        cases r with
        | ok => exact .pure ⟨⟨htcp, hclient⟩, hconnected⟩
        | error e => exact yields_close hconnected fun _ h => h

theorem steady_resolve : Steady (Endpoint.resolve (host fates) address port) := by
  apply Steady.bind
  · apply Steady.bind ⟨fun w => yields_fate⟩
    intro fate
    exact .pure _
  · intro r
    split <;> exact .pure _

theorem Opened.after {v u : Ledger} {r : Except Endpoint.Error Endpoint.Socket} (hv : Grown [] w v)
    (h : Opened address v r u) : Opened address w r u := by
  cases r with
  | ok socket => exact ⟨h.1, by simpa using hv.trans h.2⟩
  | error e => exact hv.trans h

theorem yields_openSocketAt (hlocal : address.protocol ≠ .inproc) (hipc : address.protocol ≠ .ipc) :
    Yields (Endpoint.openSocketAt (host fates) address transport port) w (Opened address w) := by
  unfold Endpoint.openSocketAt
  cases hprotocol : address.protocol with
  | inproc => exact (hlocal hprotocol).elim
  | ipc => exact (hipc hprotocol).elim
  | tcp =>
    cases hserver : address.isServer with
    | true =>
      apply yields_prepared
      · exact fun _ => steady_bindStream
      · exact fun _ => ⟨hprotocol, hserver⟩
      · exact fun _ => rfl
    | false =>
      apply (steady_resolve.yields w).bind
      intro r v hv
      cases r with
      | error e => exact .pure hv
      | ok peers =>
        apply (yields_connectFirst hprotocol hserver _ peers).mono
        intro r u hu
        exact hu.after hv
  | udp =>
    have hdatagram : address.protocol.isDatagram = true := by rw [hprotocol]; rfl
    cases hserver : address.isServer with
    | true =>
      apply yields_prepared
      · exact fun _ => steady_bind
      · exact fun _ => ⟨hdatagram, hserver⟩
      · exact fun _ => rfl
    | false =>
      apply (steady_resolve.yields w).bind
      intro r v hv
      cases r with
      | error e => exact .pure hv
      | ok peers =>
        simp only
        split
        · exact .pure hv
        · rename_i peer _
          have hopened : Yields (Endpoint.prepared (host fates) address (request fates add)
              (fun _ => pure ()) (.datagram · peer)) v (Opened address v) := by
            apply yields_prepared
            · exact fun _ => .pure _
            · exact fun _ => ⟨hdatagram, hserver⟩
            · exact fun _ => rfl
          exact hopened.mono fun r u hu => hu.after hv
  | pgm | epgm =>
    have hdatagram : address.protocol.isDatagram = true := by rw [hprotocol]; rfl
    cases hserver : address.isServer with
    | true =>
      apply yields_prepared
      · intro id
        apply steady_bind.except_bind
        intro _
        exact steady_configure _
      · exact fun _ => ⟨hdatagram, hserver⟩
      · exact fun _ => rfl
    | false =>
      apply yields_prepared
      · exact fun _ => steady_configure _
      · exact fun _ => ⟨hdatagram, hserver⟩
      · exact fun _ => rfl

theorem yields_openSocket :
    Yields (Endpoint.openSocket (host fates) address transport) w (Opened address w) := by
  unfold Endpoint.openSocket
  cases hprotocol : address.protocol with
  | inproc => exact .pure ⟨hprotocol, .refl w⟩
  | ipc => exact .pure (.refl w)
  | _ =>
    cases address.requiredPort with
    | error cause => exact .pure (.refl w)
    | ok port =>
      apply yields_openSocketAt
      · simp [hprotocol]
      · simp [hprotocol]

/-- An endpoint that does not listen yet was made, or nothing is left of it. -/
def Readied (address : Address) (permissions : Permissions) (w : Ledger) :
    Except Endpoint.Error Endpoint → Ledger → Prop
  | .ok e, v => e.address = address ∧ e.permissions = permissions ∧ e.listening = false ∧
    e.socket.Fits address ∧ Grown e.socket.id?.toList w v
  | .error _, v => Grown [] w v

theorem yields_ready {permissions : Permissions} :
    Yields (Endpoint.ready? (host fates) permissions transport address) w
      (Readied address permissions w) := by
  unfold Endpoint.ready?
  split
  · exact .pure (.refl w)
  · apply yields_openSocket.bind
    intro r v hv
    cases r with
    | error e => exact .pure hv
    | ok socket => exact .pure ⟨rfl, rfl, rfl, hv⟩

/-- A socket was opened, and a listener was started on it. -/
structure Launched (id : Nat) (w v : Ledger) : Prop where
  grown : Grown [id] w { v with listeners := w.listeners }
  started : ∃ l : Listener, l.Reachable ∧ l.isServing = true ∧ v.listeners = (id, l) :: w.listeners

theorem Grown.launch {handle : Nat} {u : Ledger} {l : Listener} (h : Grown [handle, id] w u)
    (hl : l.Reachable) (hserving : l.isServing = true) : Launched id w { u with
      sockets := u.sockets.erase handle, listeners := (id, l) :: u.listeners } where
  grown := ⟨h.close.sockets, rfl, h.close.next, h.close.fresh⟩
  started := ⟨l, hl, hserving, by rw [h.listeners]⟩

theorem yields_startThread {handle : Nat} {v : Ledger} (hv : Grown [handle, id] w v) :
    Yields ((host fates).startThread id handle) v fun r u =>
      if r.isSome then Grown [handle, id] w u else Launched id w u := by
  apply yields_fate.bind
  intro fate u hu
  have hgrown : Grown [handle, id] w u := hv.trans hu
  split
  · exact .pure hgrown
  · rename_i l _ hrun
    split
    · rename_i hserving
      have hlaunched := hgrown.launch (Listener.Reachable.start.run _ hrun) hserving
      apply (yields_modify (P := fun _ t => Launched id w t) hlaunched).bind
      intro _ t ht
      exact .pure ht
    · exact ⟨nofun⟩
  · exact ⟨nofun⟩

theorem yields_startListener {e : Endpoint} {handleName : String} {v : Ledger} (hv : Grown [id] w v) :
    Yields (e.startListener (host fates) handleName id) v fun r u =>
      if r.isOk then Launched id w u else Grown [id] w u := by
  apply yields_open.bind
  intro r u hu
  cases r with
  | error cause => exact .pure (hv.trans hu)
  | ok handle =>
    have hgrown : Grown [handle, id] w u := hv.trans hu
    simp only
    split
    · exact yields_close hgrown fun _ h => h
    · apply (yields_startThread hgrown).bind
      intro r t ht
      cases r with
      | none => exact .pure ht
      | some cause => exact yields_close ht fun _ h => h

theorem shutdown_of_silent {m : Type → Type} [Monad m] {host : Host m} {e : Endpoint}
    (hsilent : e.listening = false) : e.shutdown host = pure e := by
  obtain ⟨address, transport, permissions, socket, listening⟩ := e
  cases hsilent
  rfl

theorem yields_drop_of_silent {e : Endpoint} {v : Ledger} (hsilent : e.listening = false)
    (hv : Grown e.socket.id?.toList w v) :
    Yields (e.drop (host fates)) v fun _ u => Grown [] w u := by
  unfold Endpoint.drop
  rw [shutdown_of_silent hsilent, pure_bind]
  cases hid : e.socket.id? with
  | none =>
    rw [hid] at hv
    exact .pure hv
  | some id =>
    rw [hid] at hv
    exact yields_modify hv.close

/-- An endpoint was added, and a listener for it if it is a server with a socket. -/
structure Arrived (e : Endpoint) (w v : Ledger) : Prop where
  fits : e.socket.Fits e.address
  listens : e.listening = true ↔ e.isServer = true ∧ e.address.protocol ≠ .inproc
  silent : e.listening = false → Grown e.socket.id?.toList w v
  serving : e.listening = true → ∃ id, e.socket.id? = some id ∧ Launched id w v

theorem Grown.arrived {e : Endpoint} {v : Ledger} (h : Grown e.socket.id?.toList w v)
    (hfits : e.socket.Fits e.address) (hclient : e.isServer = false) (hsilent : e.listening = false) :
    Arrived e w v where
  fits := hfits
  listens := by simp [hsilent, hclient]
  silent _ := h
  serving := by simp [hsilent]

def Listened (e : Endpoint) (w : Ledger) : Except Endpoint.Error Unit × Endpoint → Ledger → Prop
  | (.ok (), e'), v => e'.address = e.address ∧ Arrived e' w v
  | (.error _, e'), v => e'.listening = false ∧ Grown e'.socket.id?.toList w v

theorem yields_listen_at {e : Endpoint} {handleName : String} {v : Ledger} (hserver : e.isServer = true)
    (hfits : e.socket.Fits e.address) (hid : e.socket.id? = some id) (hv : Grown [id] w v) :
    Yields (do
      let result ← e.startListener (host fates) handleName id
      return (result, { e with listening := result.isOk })) v (Listened e w) := by
  apply (yields_startListener hv).bind
  intro r u hu
  cases r with
  | error cause =>
    have hclosed : Grown e.socket.id?.toList w u := by
      rw [hid]
      exact hu
    exact .pure ⟨rfl, hclosed⟩
  | ok =>
    have hlistens : true = true ↔ e.isServer = true ∧ e.address.protocol ≠ .inproc :=
      ⟨fun _ => ⟨hserver, hfits.outside hid⟩, fun _ => rfl⟩
    exact .pure ⟨rfl, hfits, hlistens, nofun, fun _ => ⟨id, hid, hu⟩⟩

theorem yields_listen {e : Endpoint} {v : Ledger} (hserver : e.isServer = true)
    (hsilent : e.listening = false) (hfits : e.socket.Fits e.address)
    (hv : Grown e.socket.id?.toList w v) :
    Yields (e.listen (host fates)) v (Listened e w) := by
  unfold Endpoint.listen
  rw [shutdown_of_silent hsilent, pure_bind, hserver]
  obtain ⟨address, transport, permissions, socket, listening⟩ := e
  cases hsilent
  obtain ⟨hsocket, hinside⟩ | ⟨id, hsocket | hsocket⟩ := hfits.of_server hserver
  · cases hsocket
    have hlistens : false = true ↔ address.isServer = true ∧ address.protocol ≠ .inproc :=
      ⟨nofun, fun h => (h.2 hinside).elim⟩
    exact .pure ⟨rfl, hfits, hlistens, fun _ => hv, nofun⟩
  · cases hsocket
    exact yields_listen_at hserver hfits rfl hv
  · cases hsocket
    exact yields_listen_at hserver hfits rfl hv

/-- What opening an endpoint comes to: nothing of it is left if it fails. -/
def Served (url : String) (w : Ledger) : Except Endpoint.Error Endpoint → Ledger → Prop
  | .ok e, v => Address.parse url = .ok e.address ∧ Arrived e w v
  | .error _, v => Grown [] w v

theorem yields_openEndpoint {permissions : Permissions} {url : String} :
    Yields (Distributed.openEndpoint (host fates) permissions transport url) w (Served url w) := by
  unfold Distributed.openEndpoint
  cases hparse : Address.parse url with
  | error cause => exact .pure (.refl w)
  | ok address =>
    apply yields_ready.bind
    intro r v hv
    cases r with
    | error e => exact .pure hv
    | ok e =>
      obtain ⟨haddress, -, hsilent, hfits, hgrown⟩ := hv
      rw [← haddress] at hfits hparse
      simp only
      split
      · rename_i hserver
        apply (yields_listen hserver hsilent hfits hgrown).bind
        rintro ⟨r, served⟩ u hu
        cases r with
        | ok => exact .pure ⟨hu.1 ▸ hparse, hu.2⟩
        | error e =>
          apply (yields_drop_of_silent hu.1 hu.2).bind
          intro _ t ht
          exact .pure ht
      · rename_i hother
        have hclient : e.isServer = false := eq_false_of_ne_true hother
        exact .pure ⟨hparse, hgrown.arrived hfits hclient hsilent⟩

end Ledger

end Relay
