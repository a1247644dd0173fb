import Relay.Proofs.Net.Reception

namespace Relay

variable {σ : Type} {sink : Sink σ} {limit : Nat} {s : σ} {frames : List Frame.Bytes}

namespace Frame

variable {bytes t : Bytes} {first : List Bytes} {ending outcome : Except Error Bytes}

theorem Spells.rest_incomplete {rest : Bytes} (h : Spells limit bytes frames (.ok rest)) :
    Incomplete limit rest := by
  generalize ho : Except.ok rest = ended at h
  induction h with
  | incomplete h =>
    cases ho
    exact h
  | tooLarge => cases ho
  | frame _ _ ih => exact ih ho

theorem Spells.exists_append (h : Spells limit bytes first outcome)
    (hall : Spells limit (bytes ++ t) frames ending) : ∃ more, frames = first ++ more ∧
      (∀ e, outcome = .error e → more = [] ∧ ending = .error e) ∧
      ∀ rest, outcome = .ok rest → Spells limit (rest ++ t) more ending := by
  cases outcome with
  | error e =>
    obtain ⟨rfl, rfl⟩ := hall.unique (h.refusal_append t)
    exact ⟨[], (List.append_nil _).symm, fun _ he => ⟨rfl, he⟩, nofun⟩
  | ok rest =>
    have hmore := Spells.drain limit (rest ++ t)
    obtain ⟨rfl, rfl⟩ := hall.unique (h.append hmore)
    refine ⟨_, rfl, nofun, ?_⟩
    rintro _ ⟨⟩
    exact hmore

theorem decodeEnd_incomplete (h : Incomplete limit bytes) (payload rest : Bytes) :
    decodeEnd limit bytes ≠ (.ok (some payload), rest) := by
  rw [decodeEnd, decode_incomplete h]
  simp only
  split <;> nofun

end Frame

namespace Sink

theorem takeAll_of_refused {more : List Frame.Bytes} (h : (sink.takeAll frames s).2 = false) :
    sink.takeAll (frames ++ more) s = sink.takeAll frames s := by
  induction frames generalizing s with
  | nil => cases h
  | cons frame frames ih =>
    rw [takeAll] at h
    rw [List.cons_append, takeAll, takeAll]
    generalize sink frame s = answer at h ⊢
    obtain ⟨next, wants⟩ := answer
    cases wants with
    | true => exact ih h
    | false => rfl

theorem takeAll_of_accepted {more : List Frame.Bytes} (h : (sink.takeAll frames s).2 = true) :
    sink.takeAll (frames ++ more) s = sink.takeAll more (sink.takeAll frames s).1 := by
  induction frames generalizing s with
  | nil => rfl
  | cons frame frames ih =>
    rw [takeAll] at h ⊢
    rw [List.cons_append, takeAll]
    generalize sink frame s = answer at h ⊢
    obtain ⟨next, wants⟩ := answer
    cases wants with
    | true => exact ih h
    | false => cases h

/-- The frames that a sink is given of a row: up to the first after which it wants no more. -/
def given (sink : Sink σ) : List Frame.Bytes → σ → List Frame.Bytes
  | [], _ => []
  | frame :: frames, s =>
    match sink frame s with
    | (s, true) => frame :: given sink frames s
    | (_, false) => [frame]

/-- A sink that also records what it is given, earliest first. -/
def recorded (sink : Sink σ) : Sink (List Frame.Bytes × σ) := fun frame (calls, s) =>
  let (s, more) := sink frame s
  ((calls ++ [frame], s), more)

theorem takeAll_recorded (frames calls : List Frame.Bytes) (s : σ) :
    sink.recorded.takeAll frames (calls, s) =
      ((calls ++ sink.given frames s, (sink.takeAll frames s).1), (sink.takeAll frames s).2) := by
  induction frames generalizing calls s with
  | nil => rw [given, List.append_nil, takeAll, takeAll]
  | cons frame frames ih =>
    rw [given, takeAll, takeAll, recorded]
    generalize sink frame s = answer
    obtain ⟨next, wants⟩ := answer
    cases wants with
    | true =>
      simp only
      rw [ih, List.append_assoc]
      rfl
    | false => rfl

end Sink

namespace Connection

variable {c : Connection σ} {ending : Except Frame.Error Frame.Bytes}

/-- A turn in which the token is not cancelled and bytes arrive or, for none, nothing does in time. -/
def Turn.ofArrival : Option Frame.Bytes → Turn
  | some chunk => ⟨false, .bytes chunk⟩
  | none => ⟨false, .timedOut⟩

def arrived (arrivals : List (Option Frame.Bytes)) : Frame.Bytes := arrivals.flatMap (·.getD [])

theorem run_of_closed (h : c.isOpen = false) (turns : List Turn) : c.run limit sink turns = c := by
  cases turns with
  | nil => rfl
  | cons turn turns => rw [run, h, Bool.false_and, if_neg Bool.false_ne_true]

theorem run_timedOut (hopen : c.isOpen = true) (turns : List Turn) :
    c.run limit sink (.ofArrival none :: turns) = c.run limit sink turns := by
  rw [run, if_pos (by rw [hopen]; rfl)]
  rfl

theorem run_bytes (hopen : c.isOpen = true) (chunk : Frame.Bytes) (turns : List Turn) :
    c.run limit sink (.ofArrival (some chunk) :: turns) =
      (drain limit sink { c with buffer := c.buffer ++ chunk }).run limit sink turns := by
  rw [run, if_pos (by rw [hopen]; rfl)]
  rfl

theorem drain_open {first : List Frame.Bytes} {outcome : Except Frame.Error Frame.Bytes}
    (h : Frame.Spells limit c.buffer first outcome) (hopen : c.isOpen = true)
    (hstill : (c.drain limit sink).isOpen = true) :
    (sink.takeAll first c.sink).2 = true ∧ outcome = .ok (c.drain limit sink).buffer := by
  obtain ⟨-, hopened, hbuffer⟩ := drain_spells sink h
  rw [hstill, hopen, Bool.true_and, eq_comm, Bool.and_eq_true] at hopened
  obtain ⟨hwants, hok⟩ := hopened
  cases outcome with
  | error e => cases hok
  | ok rest => exact ⟨hwants, by rw [hbuffer hwants rest rfl]⟩

theorem drain_closed {first more : List Frame.Bytes} {outcome : Except Frame.Error Frame.Bytes}
    (h : Frame.Spells limit c.buffer first outcome) (hopen : c.isOpen = true)
    (hclosed : (c.drain limit sink).isOpen = false)
    (hrefused : ∀ e, outcome = .error e → more = [] ∧ ending = .error e) :
    (c.drain limit sink).sink = (sink.takeAll (first ++ more) c.sink).1 ∧
    ((sink.takeAll (first ++ more) c.sink).2 && ending.isOk) = false := by
  obtain ⟨hsink, hstill, -⟩ := drain_spells sink h
  rw [hclosed, hopen, Bool.true_and] at hstill
  rw [hsink]
  cases hwants : (sink.takeAll first c.sink).2 with
  | false => rw [Sink.takeAll_of_refused hwants, hwants]; exact ⟨rfl, rfl⟩
  | true =>
    rw [hwants, Bool.true_and] at hstill
    cases outcome with
    | ok => cases hstill
    | error e =>
      obtain ⟨rfl, rfl⟩ := hrefused e rfl
      rw [List.append_nil]
      exact ⟨rfl, Bool.and_false _⟩

/-- A run gives to the sink the frames of all that arrives. It ends open if the sink wanted all of them
and none was refused, and then keeps what is left for another frame. -/
theorem run_spells (sink : Sink σ) (arrivals : List (Option Frame.Bytes)) (hopen : c.isOpen = true)
    (hkeeps : Frame.Incomplete limit c.buffer)
    (h : Frame.Spells limit (c.buffer ++ arrived arrivals) frames ending) :
    (c.run limit sink (arrivals.map .ofArrival)).sink = (sink.takeAll frames c.sink).1 ∧
    (c.run limit sink (arrivals.map .ofArrival)).isOpen =
      ((sink.takeAll frames c.sink).2 && ending.isOk) ∧
    ((c.run limit sink (arrivals.map .ofArrival)).isOpen = true →
      ending = .ok (c.run limit sink (arrivals.map .ofArrival)).buffer) := by
  induction arrivals generalizing c frames with
  | nil =>
    rw [arrived, List.flatMap_nil, List.append_nil] at h
    obtain ⟨rfl, rfl⟩ := h.unique (.incomplete hkeeps)
    exact ⟨rfl, hopen, fun _ => rfl⟩
  | cons arrival arrivals ih =>
    rw [List.map_cons]
    cases arrival with
    | none =>
      rw [run_timedOut hopen]
      exact ih hopen hkeeps h
    | some chunk =>
      rw [arrived, List.flatMap_cons, Option.getD_some, ← List.append_assoc] at h
      rw [run_bytes hopen]
      let read : Connection σ := { c with buffer := c.buffer ++ chunk }
      have hspelled : Frame.Spells limit read.buffer _ _ := Frame.Spells.drain limit read.buffer
      obtain ⟨more, rfl, hrefused, hgoesOn⟩ := hspelled.exists_append h
      change ((read.drain limit sink).run limit sink _).sink = (sink.takeAll _ read.sink).1 ∧ _
      cases hstill : (read.drain limit sink).isOpen with
      | false =>
        obtain ⟨hsink, hended⟩ := drain_closed hspelled hopen hstill hrefused
        rw [run_of_closed hstill, hstill]
        exact ⟨hsink, hended.symm, nofun⟩
      | true =>
        obtain ⟨hwants, houtcome⟩ := drain_open hspelled hopen hstill
        have hsink := (drain_spells sink hspelled).1
        rw [houtcome] at hspelled
        rw [Sink.takeAll_of_accepted hwants, ← hsink]
        exact ih hstill hspelled.rest_incomplete (hgoesOn _ houtcome)

end Connection

namespace Net.Server

open Channel (Traffic)

variable {k : Message.Kind} {server : Server k} {t : Traffic k.Value}

/-- Of the payloads that its connection is given, a server enqueues those that are values of the kind, up to
one that the channel does not take. -/
theorem Reachable.enqueued_takeAll (ht : server.Reachable t) (payloads : List Frame.Bytes) :
    ((server.sink.takeAll payloads t).2 = true →
      server.enqueued (server.sink.takeAll payloads t).1 =
        server.enqueued t ++ (server.sink.given payloads t).filterMap k.decode?) ∧
    ((server.sink.takeAll payloads t).2 = false → ∃ values value,
      (server.sink.given payloads t).filterMap k.decode? = values ++ [value] ∧
      server.enqueued (server.sink.takeAll payloads t).1 = server.enqueued t ++ values) := by
  induction payloads generalizing t with
  | nil =>
    refine ⟨fun _ => (List.append_nil _).symm, fun hwants => ?_⟩
    cases hwants
  | cons payload payloads ih =>
    rw [Sink.takeAll, Sink.given]
    cases hdecode : k.decode payload with
    | error e =>
      rw [sink_of_error hdecode]
      simp only
      rw [List.filterMap_cons_none (k.decode?_of_error hdecode)]
      exact ih ht
    | ok value =>
      obtain ⟨hnext, henqueued⟩ := ht.serve value
      rw [sink_of_ok hdecode]
      generalize server.serve value t = answer at hnext henqueued
      obtain ⟨u, wants⟩ := answer
      cases wants with
      | true =>
        simp only
        rw [List.filterMap_cons_some (k.decode?_of_ok hdecode)]
        obtain ⟨haccepted, hrefused⟩ := ih hnext
        rw [if_pos rfl] at henqueued
        refine ⟨fun hwants => ?_, fun hwants => ?_⟩
        · rw [haccepted hwants, henqueued, List.append_assoc]
          rfl
        · obtain ⟨values, last, hvalues, hlast⟩ := hrefused hwants
          refine ⟨value :: values, last, by rw [hvalues]; rfl, ?_⟩
          rw [hlast, henqueued, List.append_assoc]
          rfl
      | false =>
        refine ⟨fun hwants => ?_, fun _ => ⟨[], value, ?_, henqueued⟩⟩
        · cases hwants
        · exact List.filterMap_cons_some (k.decode?_of_ok hdecode)

end Net.Server

/-- However a stream is cut into reads, and wherever nothing arrives in time, the sink of its connection is
called with the frames of the stream, in order, up to the first after which it wants no more, or up to one
that is too large. While the connection is open its buffer holds no whole frame, so none is lost when the
stream ends. At a server with a channel the payloads that are values are enqueued, all of them or up to the
one that the channel did not take, and the others are skipped. -/
theorem Connection.every_frame_delivered (limit : Nat) (arrivals : List (Option Frame.Bytes)) :
    ∃ frames ending, Frame.Spells limit (arrived arrivals) frames ending ∧
    (∀ {σ : Type} (sink : Sink σ) (s : σ),
      let c := (start ([], s)).run limit sink.recorded (arrivals.map .ofArrival)
      c.sink = (sink.given frames s, (sink.takeAll frames s).1) ∧
      c.isOpen = ((sink.takeAll frames s).2 && ending.isOk) ∧
      (c.isOpen = true → ending = .ok c.buffer ∧ Frame.decode limit c.buffer = (.ok none, c.buffer) ∧
        ∀ payload rest, Frame.decodeEnd limit c.buffer ≠ (.ok (some payload), rest))) ∧
    ∀ {k : Message.Kind} (server : Net.Server k) (t : Channel.Traffic k.Value), server.Reachable t →
      let c := (start t).run limit server.sink (arrivals.map .ofArrival)
      let values := (server.sink.given frames t).filterMap k.decode?
      ((server.sink.takeAll frames t).2 = true →
        server.enqueued c.sink = server.enqueued t ++ values) ∧
      ((server.sink.takeAll frames t).2 = false → server.Stopped c.sink ∧
        ∃ first value, values = first ++ [value] ∧
          server.enqueued c.sink = server.enqueued t ++ first) := by
  have hspelled := Frame.Spells.drain limit (arrived arrivals)
  refine ⟨_, _, hspelled, fun sink s => ?_, fun server t ht => ?_⟩
  · obtain ⟨hsink, hopen, hkept⟩ := run_spells (c := start ([], s)) sink.recorded arrivals rfl nofun hspelled
    rw [start, Sink.takeAll_recorded] at hsink hopen
    refine ⟨hsink, hopen, fun hstill => ?_⟩
    have hending := hkept hstill
    rw [hending] at hspelled
    have hincomplete := hspelled.rest_incomplete
    exact ⟨hending, Frame.decode_incomplete hincomplete, Frame.decodeEnd_incomplete hincomplete⟩
  · obtain ⟨hsink, -, -⟩ := run_spells (c := start t) server.sink arrivals rfl nofun hspelled
    obtain ⟨haccepted, hrefused⟩ := ht.enqueued_takeAll (Frame.drain limit (arrived arrivals)).frames
    simp only [hsink]
    exact ⟨haccepted, fun hwants => ⟨(ht.takeAll _).stopped hwants, hrefused hwants⟩⟩

/-- The reads cut headers and payloads; the second of three payloads is no number of two bytes. -/
theorem Connection.every_frame_delivered_skipping :
    ∃ (server : Net.Server (.unsigned .w16)) (t : Channel.Traffic (Message.Kind.Value (.unsigned .w16))),
      server.Reachable t ∧
      let turns := [some [0, 0], none, some [0, 2, 1, 2, 0, 0, 0, 1, 9, 0], some [0, 0, 2, 0, 7]].map
        Turn.ofArrival
      ((start ([], t)).run 2 server.sink.recorded turns).sink.1 = [[1, 2], [9], [0, 7]] ∧
      server.enqueued ((start t).run 2 server.sink turns).sink = [258, 7] := by
  let server : Net.Server (.unsigned .w16) := .alone 2 .plain 2 (by decide)
  let t : Channel.Traffic (Message.Kind.Value (.unsigned .w16)) := ⟨.ofChannel server.channel, [], []⟩
  have ht : server.Reachable t := .start
  obtain ⟨frames, ending, hspelled, hsinks, hservers⟩ := every_frame_delivered 2
    [some [0, 0], none, some [0, 2, 1, 2, 0, 0, 0, 1, 9, 0], some [0, 0, 2, 0, 7]]
  have hframes : frames = [[1, 2], [9], [0, 7]] := hspelled.drained.1.symm.trans (by decide +kernel)
  subst hframes
  refine ⟨server, t, ht, ?_, ?_⟩
  · obtain ⟨hsink, -⟩ := hsinks server.sink t
    exact (congrArg Prod.fst hsink).trans (by decide +kernel)
  · exact ((hservers server t ht).1 (by decide +kernel)).trans (by decide +kernel)

end Relay
