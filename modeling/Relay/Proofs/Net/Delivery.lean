import Relay.Proofs.Net.Reception
import Relay.Proofs.Net.Uplink

namespace Relay.Net

open Channel (Traffic callsOf)

/-- The calls on a client, the connection at the server, and the bytes that it has read. -/
structure Link (k : Message.Kind) (σ : Type) where
  uplink : Uplink k σ
  connection : Connection (Traffic k.Value)
  read : Frame.Bytes

namespace Link

variable {k : Message.Kind} {σ : Type}

def start (server : Server k) (machine : σ) : Link k σ :=
  ⟨.idle machine, .start ⟨.ofChannel server.channel, [], []⟩, []⟩

def receive (l : Link k σ) (server : Server k) (chunk : Frame.Bytes) : Link k σ :=
  { l with
    connection := l.connection.step server.limit server.sink (.bytes chunk)
    read := l.read ++ chunk }

/-- What threads can send through a client, and what can have arrived of it. -/
inductive Reachable (client : Client k σ) (server : Server k) (owner : Nat → Nat) (machine : σ) :
    Link k σ → Prop
  | start : Reachable client server owner machine (start server machine)
  | send {l : Link k σ} {next : Uplink k σ} (hl : Reachable client server owner machine l)
      (event : Uplink.Event k) (hp : l.uplink.Permits owner event)
      (hstep : l.uplink.step client event = some next) :
      Reachable client server owner machine { l with uplink := next }
  | receive {l : Link k σ} (hl : Reachable client server owner machine l) (chunk : Frame.Bytes)
      (hopen : l.connection.isOpen = true)
      (hchunk : l.read ++ chunk <+: client.stream l.uplink.machine) :
      Reachable client server owner machine (l.receive server chunk)
  | wait {l : Link k σ} (hl : Reachable client server owner machine l)
      (hopen : l.connection.isOpen = true) : Reachable client server owner machine
        { l with connection := l.connection.step server.limit server.sink .timedOut }

structure Orderly (client : Client k σ) (server : Server k) (owner : Nat → Nat) (l : Link k σ) :
    Prop where
  calls : Uplink.Orderly client owner l.uplink
  traffic : server.Reachable l.connection.sink
  behind : l.read <+: client.stream l.uplink.machine
  enqueued : server.enqueued l.connection.sink <+: l.uplink.values
  keeps : l.connection.isOpen = true → Frame.Spells server.limit l.read
    ((server.enqueued l.connection.sink).map k.encode) (.ok l.connection.buffer)
  stopped : l.connection.isOpen = false → server.Stopped l.connection.sink

variable {client : Client k σ} {server : Server k} {owner : Nat → Nat} {machine : σ} {l : Link k σ}
  {next : Uplink k σ} {chunk : Frame.Bytes}

theorem Orderly.start (h : client.stream machine = []) :
    Orderly client server owner (start server machine) where
  calls := .idle h
  traffic := .start
  behind := List.nil_prefix
  enqueued := List.nil_prefix
  keeps _ := .incomplete nofun
  stopped := nofun

theorem Orderly.send (h : Orderly client server owner l)
    (hmoved : Uplink.Moved client owner l.uplink next) :
    Orderly client server owner { l with uplink := next } where
  calls := h.calls.moved hmoved
  traffic := h.traffic
  behind := h.behind.trans hmoved.prefixes.2
  enqueued := h.enqueued.trans hmoved.prefixes.1
  keeps := h.keeps
  stopped := h.stopped

theorem Orderly.spelled (h : Orderly client server owner l)
    (hfits : ∀ value ∈ l.uplink.values, (k.encode value).length ≤ server.limit) :
    Frame.Spells server.limit (client.stream l.uplink.machine) (l.uplink.values.map k.encode)
      (.ok []) := by
  apply h.calls.spelled.within
  intro payload hpayload
  obtain ⟨value, hvalue, rfl⟩ := List.mem_map.1 hpayload
  exact hfits value hvalue

theorem Orderly.completes (h : Orderly client server owner l)
    (hfits : ∀ value ∈ l.uplink.values, (k.encode value).length ≤ server.limit)
    (hopen : l.connection.isOpen = true) (hchunk : l.read ++ chunk <+: client.stream l.uplink.machine) :
    ∃ arrived left, server.enqueued l.connection.sink ++ arrived <+: l.uplink.values ∧
      Frame.Spells server.limit (l.connection.buffer ++ chunk) (arrived.map k.encode) (.ok left) := by
  have hspelled := h.spelled hfits
  obtain ⟨later, hlater⟩ := hchunk
  rw [← hlater] at hspelled
  obtain ⟨complete, more, left, hframes, hread, -⟩ := hspelled.of_append
  obtain ⟨earlier, arrived, buffer, rfl, hearlier, harrived⟩ := hread.of_append
  -- What was complete before this read has been enqueued.
  obtain ⟨hsame, hbuffer⟩ := (h.keeps hopen).unique hearlier
  cases hbuffer
  obtain ⟨coming, hcoming⟩ := h.enqueued
  rw [← hcoming, ← hsame, List.map_append, List.append_assoc] at hframes
  obtain ⟨values, beyond, rfl, rfl, -⟩ := List.map_eq_append_iff.1 (List.append_cancel_left hframes)
  refine ⟨values, left, ⟨beyond, ?_⟩, harrived⟩
  rw [List.append_assoc, hcoming]

theorem Orderly.receive (h : Orderly client server owner l)
    (hfits : ∀ value ∈ l.uplink.values, (k.encode value).length ≤ server.limit)
    (hopen : l.connection.isOpen = true) (hchunk : l.read ++ chunk <+: client.stream l.uplink.machine) :
    Orderly client server owner (l.receive server chunk) := by
  obtain ⟨arrived, left, hvalues, harrived⟩ := h.completes hfits hopen hchunk
  let c : Connection (Traffic k.Value) :=
    { l.connection with buffer := l.connection.buffer ++ chunk }
  have hspelled : Frame.Spells server.limit c.buffer (arrived.map k.encode) (.ok left) := harrived
  obtain ⟨hsink, hstill, hbuffer⟩ := Connection.drain_spells server.sink hspelled
  have hreceived := h.traffic.takeAll (arrived.map k.encode)
  rw [k.filterMap_decode?] at hreceived
  obtain ⟨hreachable, ⟨first, hfirst, hprefix, hall⟩, hstopped⟩ := hreceived
  have hisOpen : (l.receive server chunk).connection.isOpen =
      (server.sink.takeAll (arrived.map k.encode) l.connection.sink).2 := by
    apply hstill.trans
    rw [hopen, Bool.true_and]
    exact Bool.and_true _
  have htaken : (l.receive server chunk).connection.sink =
      (server.sink.takeAll (arrived.map k.encode) l.connection.sink).1 := hsink
  refine ⟨h.calls, htaken ▸ hreachable, hchunk, ?_, ?_, ?_⟩
  · rw [htaken, hfirst]
    exact ((List.prefix_append_right_inj _).2 hprefix).trans hvalues
  · intro hmore
    rw [hisOpen] at hmore
    rw [htaken, hfirst, hall hmore, List.map_append]
    have hleft : (l.receive server chunk).connection.buffer = left := hbuffer hmore left rfl
    rw [hleft]
    exact (h.keeps hopen).append harrived
  · intro hclosed
    rw [htaken]
    exact hstopped (hisOpen ▸ hclosed)

theorem Reachable.calls (hl : Reachable client server owner machine l)
    (hstart : client.stream machine = []) : Uplink.Orderly client owner l.uplink := by
  induction hl with
  | start => exact .idle hstart
  | send hl event hp hstep ih => exact ih.moved (ih.step_moved hp hstep)
  | receive hl chunk hopen hchunk ih => exact ih
  | wait hl hopen ih => exact ih

theorem Reachable.orderly (hl : Reachable client server owner machine l)
    (hstart : client.stream machine = [])
    (hfits : ∀ value ∈ l.uplink.values, (k.encode value).length ≤ server.limit) :
    Orderly client server owner l := by
  induction hl with
  | start => exact .start hstart
  | send hl event hp hstep ih =>
    have hmoved := (hl.calls hstart).step_moved hp hstep
    have hwritten := hmoved.prefixes.1
    exact (ih fun value hvalue => hfits value (hwritten.subset hvalue)).send hmoved
  | receive hl chunk hopen hchunk ih => exact (ih hfits).receive hfits hopen hchunk
  | wait hl hopen ih => exact ih hfits

end Link

end Relay.Net
