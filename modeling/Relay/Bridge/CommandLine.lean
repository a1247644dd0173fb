import Relay.Text.Split

namespace Relay.Bridge

inductive Action where
  | serve (url : String) (workers : Nat)
  | send (url : String) (messages : List String)
  deriving DecidableEq, Repr

/-- An action, how much is logged, and where further settings are. -/
structure Command where
  action : Action
  verbosity : Nat
  settingsPath : Option String
  deriving DecidableEq, Repr

namespace CommandLine

inductive Switch where
  | help
  | verbose
  | settings
  | workers
  deriving DecidableEq, Repr

def Switch.takesValue : Switch → Bool
  | .help | .verbose => false
  | .settings | .workers => true

/-- The parts of a command line: what precedes the command, and what follows either command. -/
inductive Section where
  | top
  | serve
  | send
  deriving DecidableEq, Repr

def Section.long? (s : Section) (name : String) : Option Switch :=
  match name with
  | "help" => some .help
  | "verbose" => some .verbose
  | "config" => some .settings
  | "workers" => if s = .serve then some .workers else none
  | _ => none

def short? : Char → Option Switch
  | 'h' => some .help
  | 'v' => some .verbose
  | 'c' => some .settings
  | _ => none

inductive Misuse where
  | noCommand
  | unknownCommand (word : String)
  | unknownOption (option : String)
  | unexpectedWord (word : String)
  | noUrl
  | noValue (option : Switch)
  | unneededValue (option : Switch) (value : String)
  | badValue (option : Switch) (value : String)
  | repeated (option : Switch)
  deriving DecidableEq, Repr

/-- Why nothing is to be done: help was asked for, or the command line is wrong. -/
inductive Stop where
  | help
  | misuse (what : Misuse)
  deriving DecidableEq, Repr

def Stop.exitCode : Stop → Nat
  | .help => 0
  | .misuse _ => 2

inductive Argument where
  | separator
  | long (name : String) (value : Option String)
  | letters (letters : List Char)
  | word (text : String)
  deriving DecidableEq, Repr

/-- The form of an argument. One hyphen alone is a word, and two are the end of all options. -/
def Argument.ofText (text : String) : Argument :=
  match text.toList with
  | ['-', '-'] => .separator
  | '-' :: '-' :: rest =>
    match Text.splitAtFirst? ['='] rest with
    | some (name, value) => .long (String.ofList name) (some (String.ofList value))
    | none => .long (String.ofList rest) none
  | '-' :: c :: rest => .letters (c :: rest)
  | _ => .word text

/-- What was found in a part of a command line so far; words are in the order found. -/
structure Found where
  verbosity : Nat
  settingsPath : Option String
  workers : Option Nat
  words : List String
  deriving DecidableEq, Repr

namespace Found

def nothing : Found := ⟨0, none, none, []⟩

def note (f : Found) : Switch → Except Stop Found
  | .help => .error .help
  | .verbose => .ok { f with verbosity := f.verbosity + 1 }
  | o => .error (.misuse (.noValue o))

def assign (f : Found) (o : Switch) (value : String) : Except Stop Found :=
  match o with
  | .settings =>
    if f.settingsPath.isSome then .error (.misuse (.repeated o))
    else if value.isEmpty then .error (.misuse (.badValue o value))
    else .ok { f with settingsPath := some value }
  | .workers =>
    if f.workers.isSome then .error (.misuse (.repeated o))
    else
      match Text.unsigned? (2 ^ 64) value.toList with
      | some n => .ok { f with workers := some n }
      | none => .error (.misuse (.badValue o value))
  | .help | .verbose => .error (.misuse (.unneededValue o value))

/-- A word was found behind the command: the address first, then the messages to send. -/
def word (f : Found) (s : Section) (text : String) : Except Stop Found :=
  if s = .serve && !f.words.isEmpty then .error (.misuse (.unexpectedWord text))
  else .ok { f with words := f.words ++ [text] }

end Found

/-- The options in a row of letters. The first one that has a value takes the rest of the row for it,
less an equals sign, or is left to take the next argument if nothing is left of the row. -/
def row (f : Found) : List Char → Except Stop (Found × Option Switch)
  | [] => .ok (f, none)
  | c :: rest =>
    match short? c, rest with
    | none, _ => .error (.misuse (.unknownOption (String.ofList ['-', c])))
    | some o, rest =>
      if o.takesValue then
        match rest with
        | [] => .ok (f, some o)
        | '=' :: value | value => do return (← f.assign o (String.ofList value), none)
      else do row (← f.note o) rest

/-- An option by its long name, with what stands behind an equals sign. -/
def spelled (s : Section) (f : Found) (name : String) (value : Option String) :
    Except Stop (Found × Option Switch) :=
  match s.long? name, value with
  | none, _ => .error (.misuse (.unknownOption ("--" ++ name)))
  | some o, some value => do return (← f.assign o value, none)
  | some o, none =>
    if o.takesValue then .ok (f, some o) else do return (← f.note o, none)

/-- An argument that is taken as the value of an option, which no option can be. -/
def valueOf (o : Switch) (arg : String) : Except Stop String :=
  match Argument.ofText arg with
  | .word text => .ok text
  | _ => .error (.misuse (.noValue o))

/-- Reads a part of a command line. What precedes the command ends with the first word. -/
def scan (s : Section) (f : Found) : List String → Except Stop (Found × List String)
  | [] => .ok (f, [])
  | arg :: rest =>
    let go (step : Except Stop (Found × Option Switch)) : Except Stop (Found × List String) := do
      match ← step, rest with
      | (f, none), rest => scan s f rest
      | (_, some o), [] => .error (.misuse (.noValue o))
      | (f, some o), value :: rest => do scan s (← f.assign o (← valueOf o value)) rest
    match Argument.ofText arg, s with
    | .separator, .top =>
      .error (.misuse (match rest with
        | [] => .noCommand
        | word :: _ => .unexpectedWord word))
    | .separator, _ => do return (← rest.foldlM (fun f text => f.word s text) f, [])
    | .long name value, _ => go (spelled s f name value)
    | .letters cs, _ => go (row f cs)
    | .word _, .top => .ok (f, arg :: rest)
    | .word text, _ => do scan s (← f.word s text) rest

def command (action : Action) (before behind : Found) : Command where
  action
  verbosity := if behind.verbosity = 0 then before.verbosity else behind.verbosity
  settingsPath := behind.settingsPath <|> before.settingsPath

def topics : List String := ["serve", "send", "help"]

def helpOn : List String → Stop
  | [] => .help
  | [word] => if topics.contains word then .help else .misuse (.unknownCommand word)
  | word :: next :: _ => .misuse (.unknownCommand (if topics.contains word then next else word))

def parse (args : List String) : Except Stop Command := do
  match ← scan .top .nothing args with
  | (_, []) => .error (.misuse .noCommand)
  | (before, "serve" :: rest) =>
    let (behind, _) ← scan .serve .nothing rest
    match behind.words with
    | [] => .error (.misuse .noUrl)
    | url :: _ => return command (.serve url (behind.workers.getD 1)) before behind
  | (before, "send" :: rest) =>
    let (behind, _) ← scan .send .nothing rest
    match behind.words with
    | [] => .error (.misuse .noUrl)
    | url :: messages => return command (.send url messages) before behind
  | (_, "help" :: rest) => .error (helpOn rest)
  | (_, word :: _) => .error (.misuse (.unknownCommand word))

end CommandLine

end Relay.Bridge
