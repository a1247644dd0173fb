import Relay.Text.Alphanumeric
import Relay.Text.Blank
import Relay.Text.Split
import Relay.Text.Worded

namespace Relay.Logging

/-- How much is logged, from nothing to everything. -/
inductive Level where
  | off
  | error
  | warn
  | info
  | debug
  | trace
  deriving DecidableEq, Repr, Inhabited

namespace Level

def word : Level → String
  | .off => "off"
  | .error => "error"
  | .warn => "warn"
  | .info => "info"
  | .debug => "debug"
  | .trace => "trace"

instance : Worded Level := ⟨[.off, .error, .warn, .info, .debug, .trace], word⟩

/-- A level by its number, from zero to five, or by its word in any case. -/
def ofText? (text : String) : Option Level :=
  match (Text.unsigned? (2 ^ 64) text.toList).bind ((Worded.all : List Level)[·]?) with
  | some level => some level
  | none => Worded.ofWord? text.toLower

end Level

/-- A level for the messages of one target, or of any. -/
structure Directive where
  target : Option String
  level : Level
  deriving DecidableEq, Repr, Inhabited

namespace Directive

def beginsWith (c : Char) : Bool := c == '-' || c == ':' || c == '_' || Text.isAlphanumeric c

def cutAt : (bytes : Nat) → List Char → List Char × List Char
  | _, [] => ([], [])
  | bytes, c :: rest =>
    if bytes < c.utf8Size then ([], c :: rest)
    else
      let (before, after) := cutAt (bytes - c.utf8Size) rest
      (c :: before, after)

/-- A directive: a level, a target, or a target, an equals sign and perhaps a level. The place of the
sign is counted from the first character that is not blank, but the text is cut from its start. -/
def ofText? (cs : List Char) : Option Directive := do
  let trimmed := Text.trim cs
  let first ← trimmed.head?
  if !beginsWith first || trimmed.contains '[' then none
  match Text.splitAtFirst? ['='] trimmed with
  | none =>
    let text := String.ofList cs
    match Level.ofText? text with
    | some level => return ⟨none, level⟩
    | none => return ⟨some text, .trace⟩
  | some (before, _) =>
    let (target, rest) := cutAt (String.ofList before).utf8ByteSize cs
    match rest.drop 1 with
    | [] => return ⟨some (String.ofList target), .trace⟩
    | level => return ⟨some (String.ofList target), ← Level.ofText? (String.ofList level)⟩

def text (d : Directive) : String :=
  match d.target with
  | some target => target ++ "=" ++ d.level.word
  | none => d.level.word

/-- Whether a directive comes before another one: the longer target first, then the one that is later in
the alphabet, and no target last. -/
def precedes (d e : Directive) : Bool :=
  match d.target, e.target with
  | some a, some b => b.utf8ByteSize < a.utf8ByteSize || (a.utf8ByteSize == b.utf8ByteSize && b < a)
  | some _, none => true
  | none, _ => false

end Directive

/-- Directives with distinct targets, the most specific first. -/
abbrev Filter := List Directive

namespace Filter

/-- A filter with a directive in its place, instead of another one with its target. -/
def insert (d : Directive) : Filter → Filter
  | [] => [d]
  | e :: rest =>
    if d.target = e.target then d :: rest
    else if d.precedes e then d :: e :: rest
    else e :: insert d rest

/-- The filter that directives with commas between them spell. -/
def ofText? (text : String) : Option Filter := do
  let parts := (Text.splitAll ',' text.toList).filter (!·.isEmpty)
  let directives ← parts.mapM Directive.ofText?
  return directives.foldl (fun f d => f.insert d) []

def ofLevel (level : Level) : Filter := [⟨none, level⟩]

def text (f : Filter) : String := ",".intercalate (f.map Directive.text)

end Filter

end Relay.Logging
