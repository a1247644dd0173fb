import Relay.Bridge.CommandLine
import Relay.Failure
import Relay.Logging.Settings
import Relay.Net.Distributed
import Relay.Supervision.Settings
import Relay.Text.Lines

namespace Relay.Bridge

inductive Error where
  | settings (cause : Settings.Error)
  | capacity (cause : Channel.Error)
  | notAttached (url : String) (cause : Endpoint.Error)
  | notSent (cause : Endpoint.Error)
  | unreadableInput
  | noWorkers
  | notAServer (url : String)
  deriving DecidableEq, Repr

def Error.failure : Error → Failure
  | .settings cause => .ofMessage cause.message
  | .capacity cause => .ofMessage cause.message
  | .notAttached url cause =>
    (Failure.ofMessage cause.message).under ("Failed to attach endpoint " ++ url ++ ".")
  | .notSent cause => .ofMessage cause.message
  | .unreadableInput =>
    (Failure.ofMessage "stream did not contain valid UTF-8").under "Failed to read from standard input."
  | .noWorkers => .ofMessage "At least one worker is required."
  | .notAServer url => .ofMessage (url ++ " is not a server endpoint (expected a '*' host).")

/-- The beginning of the names of the variables that hold settings. -/
def variablePrefix : String := "STRAND"

/-- The settings of a file, if one is given, under those of the environment. -/
def settings (file : Option (Option String)) (vars : List (String × String)) :
    Except Settings.Error Settings := do
  let base ← match file with
    | some contents => Settings.empty.withFile .yaml contents
    | none => .ok .empty
  base.withEnvironment vars variablePrefix

/-- How much is logged unless settings say otherwise. -/
def Command.level (c : Command) : Logging.Level :=
  match c.verbosity with
  | 0 => .info
  | 1 => .debug
  | _ => .trace

/-- How many values the channel of a bridge holds unless settings say otherwise. -/
def standardCapacity : Nat := 64

section Channel

variable {m : Type → Type} [Monad m]

def channel (s : Settings) (pattern : Channel.Pattern) : Except Error (Distributed .raw) := do
  let capacity ← (s.findD "channel.capacity" .size standardCapacity).mapError .settings
  let transport ← (Transport.ofSettings s).mapError .settings
  let channel ← (Channel.make capacity pattern).mapError .capacity
  return .ofChannel channel .allowAll transport

def attached (host : Host m) (s : Settings) (pattern : Channel.Pattern) (url : String) :
    m (Except Error (Distributed .raw)) := do
  match channel s pattern with
  | .error e => return .error e
  | .ok d =>
    match ← d.attach host url with
    | (.ok (), d) => return .ok d
    | (.error e, _) => return .error (.notAttached url e)

def sendLine (host : Host m) (d : Distributed .raw) : Option String → m (Except Error Unit)
  | none => return .error .unreadableInput
  | some line => do return (← d.sendToEndpoint host (Utf8.encode line)).mapError .notSent

/-- Sends lines to the peer up to the first failure, and counts them. -/
def sendLines (host : Host m) (d : Distributed .raw) (sent : Nat) :
    List (Option String) → m (Except Error Nat)
  | [] => return .ok sent
  | line :: rest => do
    match ← sendLine host d line with
    | .ok () => sendLines host d (sent + 1) rest
    | .error e => return .error e

/-- A channel that receives, the number of workers that print from it, and how they are restarted. -/
structure Service where
  channel : Distributed .raw
  workers : Nat
  strategy : RestartStrategy

def openService (host : Host m) (s : Settings) (url : String) (workers : Nat) :
    m (Except Error Service) := do
  if workers = 0 then return .error .noWorkers
  else
    match ← attached host s .pull url with
    | .error e => return .error e
    | .ok d =>
      let service : Except Error Service :=
        if !d.endpoint.any (·.isServer) then .error (.notAServer url)
        else ((RestartStrategy.ofSettings s).map (⟨d, workers, ·⟩)).mapError .settings
      if service.isOk then return service
      else
        let _ ← d.shutdown host
        return service

/-- What a command comes to: the bridge gives up, has lines to send, or has a service that waits for
messages. -/
inductive Outcome where
  | failed (cause : Error)
  | sending (channel : Distributed .raw) (messages : List String)
  | serving (service : Service)

/-- Carries out a command with the contents of its settings file and variables, as far as that needs no
input. -/
def Command.start (c : Command) (host : Host m) (file : Option (Option String))
    (vars : List (String × String)) : m Outcome := do
  let ready : Except Settings.Error (Settings × Logging.Config) := do
    let s ← settings file vars
    return (s, ← Logging.Config.ofSettings s c.level)
  match ready with
  | .error e => return .failed (.settings e)
  | .ok (s, _) =>
    match c.action with
    | .send url messages =>
      match ← attached host s .push url with
      | .ok d => return .sending d messages
      | .error e => return .failed e
    | .serve url workers =>
      match ← openService host s url workers with
      | .ok service => return .serving service
      | .error e => return .failed e

/-- Goes on with an input, whose lines are sent when there are no messages: how many messages were sent,
or none by a service. -/
def Outcome.finish (host : Host m) (input : List UInt8) : Outcome → m (Except Error Nat)
  | .failed cause => return .error cause
  | .serving _ => return .ok 0
  | .sending d messages => do
    let result ← sendLines host d 0
      (if messages.isEmpty then Text.lines input else messages.map some)
    let _ ← d.shutdown host
    return result

def exitCode : Except Error Nat → Nat
  | .ok _ => 0
  | .error _ => 1

def printed (payload : Frame.Bytes) : List UInt8 := Utf8.mend payload ++ [10]

end Channel

end Relay.Bridge
