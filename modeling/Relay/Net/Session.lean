import Relay.Net.Distributed
import Relay.Net.Isolated

namespace Relay.Net

/-- A distributed channel of some kind of values. -/
structure Line where
  kind : Message.Kind
  channel : Distributed kind

/-- Why a session cannot go on: a name stands for nothing, or a socket of its own fails. -/
inductive Halt where
  | noChannel
  | noEndpoint
  | system (cause : SystemError)
  deriving DecidableEq, Repr

abbrev AnyValue := (k : Message.Kind) → k.Value

/-- What happens next to the channel or endpoint with a name. -/
inductive Act where
  | create (kind : Message.Kind) (capacity : Nat) (pattern : Channel.Pattern) (url : Option String)
  | make (kind : Message.Kind) (capacity : Nat) (pattern : Channel.Pattern)
      (permissions : Permissions) (transport : Transport)
  | attach (url : String)
  | send (value : AnyValue)
  | distributedSend (value : AnyValue)
  | localSend (value : AnyValue)
  | tryReceive
  | receive (limit : Duration)
  | close
  | shutdown
  | info
  | debug
  | detach (keepAs : Option String)
  | drop
  | readyEndpoint (permissions : Permissions) (transport : Transport) (url : String)
  | listen
  | sendBytes (payload : Frame.Bytes)
  | endpointShutdown
  | endpointInfo
  | endpointDebug
  | endpointReceive (limit : Duration)
  | connectStream
  | sendDatagram
  | bindDatagram
  | receiveDatagram

structure EndpointView where
  endpoint : Endpoint
  address : Option LocalAddress

structure LineView where
  kind : Message.Kind
  channel : Distributed kind
  endpoint : Option EndpointView

inductive Answer where
  | made (result : Except Channel.Error Unit)
  | endpointResult (result : Except Endpoint.Error Unit)
  | opened (result : Except Endpoint.Error EndpointView)
  | sent (result : Except Distributed.SendError Unit)
  | wouldBlock
  | enqueued (result : Except Channel.Error Unit)
  | received (kind : Message.Kind) (result : Except Channel.Error kind.Value)
  | line (view : LineView)
  | endpoint (view : Option EndpointView)
  | text (text : String)
  | yes
  | nothing

/-- The machine, the named channels and the named endpoints. -/
structure Session where
  machine : Isolated
  lines : List (String × Line)
  endpoints : List (String × Endpoint)

namespace Session

def start : Session := ⟨.initial, [], []⟩

def run {α : Type} (s : Session) (action : StateM Isolated α) : α × Session :=
  let (a, machine) := action.run s.machine
  (a, { s with machine })

def line? (s : Session) (name : String) : Option Line := s.lines.lookup name

def endpoint? (s : Session) (name : String) : Option Endpoint := s.endpoints.lookup name

def giveUp (s : Session) (e : Option Endpoint) : Session :=
  match e with
  | some e => (s.run (e.drop Isolated.host)).2
  | none => s

/-- Names a channel; one that had the name is given up. -/
def setLine (s : Session) (name : String) (line : Line) : Session :=
  let s := s.giveUp ((s.line? name).bind (·.channel.endpoint))
  { s with lines := (name, line) :: s.lines.filter (·.1 != name) }

/-- Puts a channel back under its name. -/
def updateLine (s : Session) (name : String) (line : Line) : Session :=
  { s with lines := (name, line) :: s.lines.filter (·.1 != name) }

def setEndpoint (s : Session) (name : String) (e : Endpoint) : Session :=
  let s := s.giveUp (s.endpoint? name)
  { s with endpoints := (name, e) :: s.endpoints.filter (·.1 != name) }

def updateEndpoint (s : Session) (name : String) (e : Endpoint) : Session :=
  { s with endpoints := (name, e) :: s.endpoints.filter (·.1 != name) }

def view (s : Session) (e : Endpoint) : EndpointView :=
  ⟨e, (s.run (e.localAddress Isolated.host)).1⟩

/-- The value that a channel gives without waiting; whoever would wait is refused when `limit` is over. -/
def receive {α : Type} (c : Channel α) (limit : Duration) : Except Channel.Error α × Channel α :=
  match c.attemptReceive (.timeout limit) true with
  | (.done result, c) => (result, c)
  | (.wait, c) => (.error (.timedOut limit), c)

def onLine (s : Session) (name : String) (act : (l : Line) → Answer × Session) :
    Except Halt (Answer × Session) :=
  match s.line? name with
  | some l => .ok (act l)
  | none => .error .noChannel

def onEndpoint (s : Session) (name : String) (act : (e : Endpoint) → Answer × Session) :
    Except Halt (Answer × Session) :=
  match s.endpoint? name with
  | some e => .ok (act e)
  | none => .error .noEndpoint

def act (s : Session) (name : String) : Act → Except Halt (Answer × Session)
  | .create kind capacity pattern url =>
    match s.run (Distributed.create Isolated.host kind capacity pattern url) with
    | (.ok channel, s) => .ok (.made (.ok ()), s.setLine name ⟨kind, channel⟩)
    | (.error e, s) => .ok (.made (.error e), s)
  | .make kind capacity pattern permissions transport =>
    match Channel.make capacity pattern with
    | .ok channel =>
      .ok (.made (.ok ()), s.setLine name ⟨kind, .ofChannel channel permissions transport⟩)
    | .error e => .ok (.made (.error e), s)
  | .attach url => s.onLine name fun l =>
    let ((result, channel), s) := s.run (l.channel.attach Isolated.host url)
    (.endpointResult result, s.updateLine name ⟨l.kind, channel⟩)
  | .send value => s.onLine name fun l =>
    let (result, s) := s.run (l.channel.sendToEndpoint Isolated.host (value l.kind))
    (.endpointResult result, s)
  | .distributedSend value => s.onLine name fun l =>
    if l.channel.channel.isFull && !l.channel.channel.closed then (.wouldBlock, s)
    else
      let enqueue (v : l.kind.Value) (c : Channel l.kind.Value) := c.trySend v
      let ((result, channel), s) := s.run (l.channel.send Isolated.host enqueue (value l.kind))
      (.sent result, s.updateLine name ⟨l.kind, channel⟩)
  | .localSend value => s.onLine name fun l =>
    let (result, channel) := l.channel.channel.trySend (value l.kind)
    (.enqueued result, s.updateLine name ⟨l.kind, { l.channel with channel }⟩)
  | .tryReceive => s.onLine name fun l =>
    let (result, channel) := l.channel.channel.tryReceive
    (.received l.kind result, s.updateLine name ⟨l.kind, { l.channel with channel }⟩)
  | .receive limit => s.onLine name fun l =>
    let (result, channel) := receive l.channel.channel limit
    (.received l.kind result, s.updateLine name ⟨l.kind, { l.channel with channel }⟩)
  | .close => s.onLine name fun l =>
    (.nothing, s.updateLine name ⟨l.kind, { l.channel with channel := l.channel.channel.close }⟩)
  | .shutdown => s.onLine name fun l =>
    let (channel, s) := s.run (l.channel.shutdown Isolated.host)
    (.nothing, s.updateLine name ⟨l.kind, channel⟩)
  | .info => s.onLine name fun l =>
    (.line ⟨l.kind, l.channel, l.channel.endpoint.map s.view⟩, s)
  | .debug => s.onLine name fun l => (.text l.channel.debugText, s)
  | .detach keepAs => s.onLine name fun l =>
    let (e, channel) := l.channel.detach
    let answer := Answer.endpoint (e.map s.view)
    let s := s.updateLine name ⟨l.kind, channel⟩
    match e, keepAs with
    | some e, some keepAs => (answer, s.setEndpoint keepAs e)
    | e, _ => (answer, s.giveUp e)
  | .drop =>
    let s := (s.giveUp ((s.line? name).bind (·.channel.endpoint))).giveUp (s.endpoint? name)
    .ok (.nothing, { s with
      lines := s.lines.filter (·.1 != name), endpoints := s.endpoints.filter (·.1 != name) })
  | .readyEndpoint permissions transport url =>
    match Address.parse url with
    | .error e => .ok (.opened (.error (.badAddress e)), s)
    | .ok address =>
      match s.run (Endpoint.ready? Isolated.host permissions transport address) with
      | (.ok e, s) => .ok (.opened (.ok (s.view e)), s.setEndpoint name e)
      | (.error e, s) => .ok (.opened (.error e), s)
  | .listen => s.onEndpoint name fun e =>
    let ((result, e), s) := s.run (e.listen Isolated.host)
    (.endpointResult result, s.updateEndpoint name e)
  | .sendBytes payload => s.onEndpoint name fun e =>
    let (result, s) := s.run (e.send Isolated.host payload)
    (.endpointResult result, s)
  | .endpointShutdown => s.onEndpoint name fun e =>
    let (e, s) := s.run (e.shutdown Isolated.host)
    (.nothing, s.updateEndpoint name e)
  | .endpointInfo => s.onEndpoint name fun e => (.endpoint (some (s.view e)), s)
  | .endpointDebug => s.onEndpoint name fun e => (.text e.debugText, s)
  | .endpointReceive limit => s.onEndpoint name fun _ =>
    (.received .raw (.error (.timedOut limit)), s)
  | .connectStream => .error (.system .unreachable)
  | .sendDatagram => .error (.system .unreachable)
  | .bindDatagram => .ok (.yes, s)
  | .receiveDatagram => .error (.system .wouldBlock)

end Session

end Relay.Net
