import Relay.Data.Yaml.Property
import Relay.Data.Yaml.Scalar

namespace Relay.Yaml

/-- The least text that a document is built from. -/
inductive Token where
  | directive (directive : Directive)
  | documentStart
  | documentEnd
  | blockSequence
  | blockMapping
  | blockEnd
  | open (bracket : Bool)
  | close (bracket : Bool)
  | comma
  | entry
  | key
  | value
  | alias (name : String)
  | anchor (name : String)
  | tag (handle suffix : String)
  | scalar (isPlain : Bool) (text : String)
  deriving DecidableEq, Repr, Inhabited

/-- A token that turns out to be a key if a colon follows on its line: its place among the tokens, and
in the text. One that is required must turn out so. -/
structure Candidate where
  position : Nat
  index : Nat
  line : Nat
  column : Nat
  required : Bool

/-- What has been read: the column of the innermost block, `-1` outside of any, those of the blocks
around it, and for each open bracket, innermost first, and the text around them the candidate for a
key. -/
structure Lexer where
  cursor : Cursor
  tokens : Array Token
  indent : Int
  outer : List Int
  candidates : List (Option Candidate)
  keyAllowed : Bool

namespace Lexer

def start (text : String) : Lexer := ⟨.start text, #[], -1, [], [none], true⟩

def inFlow (l : Lexer) : Bool := 1 < l.candidates.length

def emit (l : Lexer) (token : Token) : Lexer := { l with tokens := l.tokens.push token }

def emitSkip (l : Lexer) (token : Token) (n : Nat) : Lexer :=
  { l.emit token with cursor := l.cursor.skip n }

def allowKey (l : Lexer) (allowed : Bool) : Lexer := { l with keyAllowed := allowed }

/-- Ends the blocks that stand deeper than a column. -/
def closeTo (column : Int) : List Int → Lexer → Lexer
  | [], l => l
  | next :: outer, l =>
    if column < l.indent then closeTo column outer { l.emit .blockEnd with indent := next, outer }
    else l

/-- Ends the blocks that stand deeper than a column; a bracket keeps them open. -/
def close (l : Lexer) (column : Int) : Lexer := if l.inFlow then l else closeTo column l.outer l

/-- Begins a block at a column, with its token at the given place, unless one stands there already. -/
def enter (l : Lexer) (column position : Nat) (token : Token) : Lexer :=
  if l.inFlow || (column : Int) ≤ l.indent then l
  else
    { l with
      tokens := l.tokens.insertIdx! position token, indent := column, outer := l.indent :: l.outer }

/-- Gives up the innermost candidate; none if it had to turn out a key. -/
def dropCandidate (l : Lexer) : Option Lexer :=
  match l.candidates with
  | some k :: rest => if k.required then none else some { l with candidates := none :: rest }
  | _ => some l

/-- Takes the next token as a candidate for a key, where one may stand. -/
def offerCandidate (l : Lexer) : Option Lexer :=
  if !l.keyAllowed then some l
  else do
    let l ← l.dropCandidate
    let c := l.cursor
    let required := !l.inFlow && l.indent == (c.column : Int)
    let k : Candidate := ⟨l.tokens.size, c.index, c.line, c.column, required⟩
    return { l with candidates := some k :: l.candidates.tail }

/-- Passes blanks, comments and line breaks. A tab counts as a blank only where no block can begin. -/
def skipGap : (fuel : Nat) → Lexer → Lexer
  | 0, l => l
  | fuel + 1, l =>
    let c := l.cursor
    let c := if c.index == 0 && c.rest.head? == some '\ufeff' then c.skip 1 else c
    let c := c.skipWhile fun x => x == ' ' || (x == '\t' && (l.inFlow || !l.keyAllowed))
    let c := if c.rest.head? == some '#' then c.skipLine else c
    match c.takeBreak? with
    | some (_, c) => skipGap fuel { l with cursor := c, keyAllowed := l.keyAllowed || !l.inFlow }
    | none => { l with cursor := c }

def documentMarker (l : Lexer) (token : Token) : Option Lexer := do
  let l ← (l.close (-1)).dropCandidate
  return (l.emitSkip token 3).allowKey false

def directive (l : Lexer) : Option Lexer := do
  let l ← (l.close (-1)).dropCandidate
  let (d, c) ← directive? (l.cursor.skip 1)
  return { (l.emit (.directive d)).allowKey false with cursor := c }

def named (l : Lexer) (token : String → Token) : Option Lexer := do
  let l ← l.offerCandidate
  let (name, c) ← name? (l.cursor.skip 1)
  return { (l.emit (token name)).allowKey false with cursor := c }

def tag (l : Lexer) : Option Lexer := do
  let l ← l.offerCandidate
  let (handle, suffix, c) ← tag? l.inFlow l.cursor
  return { (l.emit (.tag handle suffix)).allowKey false with cursor := c }

def openBracket (l : Lexer) (bracket : Bool) : Option Lexer := do
  let l ← l.offerCandidate
  return { (l.emitSkip (.open bracket) 1).allowKey true with candidates := none :: l.candidates }

def closeBracket (l : Lexer) (bracket : Bool) : Option Lexer := do
  let l ← l.dropCandidate
  let l := (l.emitSkip (.close bracket) 1).allowKey false
  return if l.inFlow then { l with candidates := l.candidates.tail } else l

def comma (l : Lexer) : Option Lexer := do
  let l ← l.dropCandidate
  return (l.emitSkip .comma 1).allowKey true

/-- A dash or a question mark, which begins a block outside of brackets. -/
def indicator (l : Lexer) (token blockToken : Token) (keyAllowed : Bool) : Option Lexer := do
  if !l.inFlow && !l.keyAllowed then none
  let l ← (l.enter l.cursor.column l.tokens.size blockToken).dropCandidate
  return (l.emitSkip token 1).allowKey keyAllowed

/-- A colon with nothing before it that could be a key. -/
def bareColon (l : Lexer) : Option Lexer := do
  if !l.inFlow && !l.keyAllowed then none
  let l := l.enter l.cursor.column l.tokens.size .blockMapping
  return (l.emitSkip .value 1).allowKey !l.inFlow

/-- A colon: the innermost candidate is a key if it stands on the same line, not too far back. -/
def colon (l : Lexer) : Option Lexer :=
  match l.candidates with
  | some k :: rest =>
    let l := { l with candidates := none :: rest }
    if k.line == l.cursor.line && l.cursor.index ≤ k.index + 1024 then
      let l := { l with tokens := l.tokens.insertIdx! k.position .key }
      some (((l.enter k.column k.position .blockMapping).emitSkip .value 1).allowKey false)
    else if k.required then none
    else l.bareColon
  | _ => l.bareColon

def quotedScalar (l : Lexer) (quote : Char) : Option Lexer := do
  let l ← l.offerCandidate
  let c := l.cursor.skip 1
  let (text, c) ← quoted quote (c.rest.length + 1) [] c
  return { (l.emit (.scalar false (String.ofList text))).allowKey false with cursor := c }

def blockScalar (l : Lexer) (literal : Bool) : Option Lexer := do
  let l ← l.dropCandidate
  let (text, c) ← block literal l.indent (l.cursor.skip 1)
  return { (l.emit (.scalar false (String.ofList text))).allowKey true with cursor := c }

def plainScalar (l : Lexer) : Option Lexer := do
  let l ← l.offerCandidate
  let s ← plain l.inFlow (l.indent + 1) (l.cursor.rest.length + 1) [] .none l.cursor
  return { (l.emit (.scalar true (String.ofList s.text))).allowKey s.broken with cursor := s.next }

/-- Characters that no plain scalar begins with, or only some before the right character. -/
def isIndicator (c : Char) : Bool := "-?:,[]\x7b\x7d#&*!|>'\"%@\x60".toList.contains c

def token (l : Lexer) (first : Char) (rest : List Char) : Option Lexer :=
  let l := l.close l.cursor.column
  let wordEnds := endsWord rest
  if first == '%' && l.cursor.column == 0 then l.directive
  else if l.cursor.atMarker "---" then l.documentMarker .documentStart
  else if l.cursor.atMarker "..." then l.documentMarker .documentEnd
  else if first == '[' then l.openBracket true
  else if first == '\x7b' then l.openBracket false
  else if first == ']' then l.closeBracket true
  else if first == '\x7d' then l.closeBracket false
  else if first == ',' then l.comma
  else if first == '-' && wordEnds then l.indicator .entry .blockSequence true
  else if first == '?' && (l.inFlow || wordEnds) then l.indicator .key .blockMapping !l.inFlow
  else if first == ':' && (l.inFlow || wordEnds) then l.colon
  else if first == '*' then l.named .alias
  else if first == '&' then l.named .anchor
  else if first == '!' then l.tag
  else if first == '|' && !l.inFlow then l.blockScalar true
  else if first == '>' && !l.inFlow then l.blockScalar false
  else if first == '\'' || first == '"' then l.quotedScalar first
  else if isBlank first || isBreak first then none
  else if !isIndicator first || first == '-' || (!l.inFlow && (first == '?' || first == ':')) then
    l.plainScalar
  else none

/-- Reads tokens to the end of the text. Each takes a character or more, so fuel for all characters
suffices. -/
def run : (fuel : Nat) → Lexer → Option (Array Token)
  | 0, _ => none
  | fuel + 1, l =>
    let l := skipGap (l.cursor.rest.length + 1) l
    match l.cursor.rest with
    | [] => ((l.close (-1)).dropCandidate).map (·.tokens)
    | first :: rest => (l.token first rest).bind (run fuel)

end Lexer

/-- The tokens of a text; none if a character is not allowed or begins no token. -/
def Token.ofText? (text : String) : Option (List Token) :=
  if text.toList.all isAllowed then ((Lexer.start text).run (text.length + 1)).map (·.toList) else none

end Relay.Yaml
