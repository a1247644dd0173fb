import Relay.Data.Yaml.Cursor
import Relay.Text.Hex

namespace Relay.Yaml

/-- Blanks and line breaks between two parts of a scalar: the blanks before the first break, what that
break stands for, and what the later ones stand for. -/
structure Gap where
  blanks : List Char
  first : List Char
  more : List Char
  broken : Bool

namespace Gap

def none : Gap := ⟨[], [], [], false⟩

/-- What a gap stands for: a lone line break is a space, and of several the first one is dropped. -/
def text (g : Gap) : List Char :=
  if g.broken then
    if g.first == ['\n'] then if g.more.isEmpty then [' '] else g.more
    else g.first ++ g.more
  else g.blanks

/-- Reads a gap; none if a tab stands below the column where the lines of a scalar must begin. -/
def read (margin : Int) : (fuel : Nat) → Gap → Cursor → Option (Gap × Cursor)
  | 0, g, c => some (g, c)
  | fuel + 1, g, c =>
    match c.rest with
    | [] => some (g, c)
    | x :: _ =>
      if isBlank x then
        if g.broken && x == '\t' && (c.column : Int) < margin then Option.none
        else read margin fuel (if g.broken then g else { g with blanks := g.blanks ++ [x] }) (c.skip 1)
      else
        match c.takeBreak? with
        | some (b, c) =>
          if g.broken then read margin fuel { g with more := g.more ++ [b] } c
          else read margin fuel ⟨[], [b], [], true⟩ c
        | Option.none => some (g, c)

end Gap

/-- Brackets and commas, which end a plain scalar inside brackets. -/
def isFlowIndicator (c : Char) : Bool :=
  c == ',' || c == '[' || c == ']' || c == '\x7b' || c == '\x7d'

/-- The characters of a plain scalar up to a blank, a break or an indicator; none if a colon meets a
bracket or a comma. -/
def plainRun (inFlow : Bool) : List Char → Option (List Char)
  | [] => some []
  | c :: rest =>
    let colonAtBracket := match rest with
      | d :: _ => isFlowIndicator d || d == '?'
      | [] => false
    if isBlank c || isBreak c then some []
    else if c == ':' && inFlow && colonAtBracket then none
    else if (c == ':' && endsWord rest) || (inFlow && isFlowIndicator c) then some []
    else (plainRun inFlow rest).map (c :: ·)

/-- A scalar that was read: its text, whether a line break follows it, and where reading goes on. -/
structure ScalarText where
  text : List Char
  broken : Bool
  next : Cursor

/-- Reads a plain scalar; outside brackets its lines begin at the margin or beyond. -/
def plain (inFlow : Bool) (margin : Int) : (fuel : Nat) → List Char → Gap → Cursor → Option ScalarText
  | 0, acc, g, c => some ⟨acc, g.broken, c⟩
  | fuel + 1, acc, g, c =>
    if c.atDocument || c.rest.head? == some '#' then some ⟨acc, g.broken, c⟩
    else do
      let run ← plainRun inFlow c.rest
      let next := c.skip run.length
      let acc := if run.isEmpty then acc else acc ++ g.text ++ run
      let g := if run.isEmpty then g else .none
      if next.rest.isEmpty || !endsWord next.rest then return ⟨acc, g.broken, next⟩
      let (g, next) ← g.read margin (next.rest.length + 1) next
      if !inFlow && (next.column : Int) < margin then return ⟨acc, g.broken, next⟩
      plain inFlow margin fuel acc g next

/-- What a backslash and the next character stand for, if no digits follow. -/
def escape? : Char → Option Char
  | '0' => some '\x00'
  | 'a' => some '\x07'
  | 'b' => some '\x08'
  | 't' => some '\t'
  | '\t' => some '\t'
  | 'n' => some '\n'
  | 'v' => some '\x0b'
  | 'f' => some '\x0c'
  | 'r' => some '\r'
  | 'e' => some '\x1b'
  | ' ' => some ' '
  | '"' => some '"'
  | '/' => some '/'
  | '\\' => some '\\'
  | 'N' => some '\x85'
  | '_' => some '\xa0'
  | 'L' => some '\u2028'
  | 'P' => some '\u2029'
  | _ => none

/-- How many digits follow the letter of a numbered escape. -/
def escapeDigits? : Char → Option Nat
  | 'x' => some 2
  | 'u' => some 4
  | 'U' => some 8
  | _ => none

inductive RunEnd where
  | gap
  | escapedBreak
  | quote

/-- Reads a stretch of a quoted scalar up to a blank, a break or the closing quote; none at a wrong
escape or at the end of the text. -/
def quotedRun (quote : Char) : (fuel : Nat) → List Char → Cursor → Option (List Char × RunEnd × Cursor)
  | 0, _, _ => none
  | fuel + 1, acc, c =>
    match c.rest with
    | [] => none
    | x :: rest =>
      if isBlank x || isBreak x then some (acc.reverse, .gap, c)
      else if x == quote then
        if quote == '\'' && rest.head? == some '\'' then quotedRun quote fuel ('\'' :: acc) (c.skip 2)
        else some (acc.reverse, .quote, c.skip 1)
      else if quote == '"' && x == '\\' then
        match rest with
        | [] => none
        | e :: digits =>
          if isBreak e then some (acc.reverse, .escapedBreak, c.skip 1)
          else
            match escapeDigits? e with
            | some n =>
              if digits.length < n then none
              else (Text.charOfHex? (digits.take n)).bind fun v => quotedRun quote fuel (v :: acc) (c.skip (n + 2))
            | none => (escape? e).bind fun v => quotedRun quote fuel (v :: acc) (c.skip 2)
      else quotedRun quote fuel (x :: acc) (c.skip 1)

def quoted (quote : Char) : (fuel : Nat) → List Char → Cursor → Option (List Char × Cursor)
  | 0, _, _ => none
  | fuel + 1, acc, c => do
    if c.atDocument then none
    let (run, ending, next) ← quotedRun quote (c.rest.length + 1) [] c
    let acc := acc ++ run
    match ending with
    | .quote => return (acc, next)
    | .gap =>
      let (g, next) ← Gap.none.read 0 (next.rest.length + 1) next
      quoted quote fuel (acc ++ g.text) next
    | .escapedBreak =>
      let (_, next) ← next.takeBreak?
      let (g, next) ← Gap.read 0 (next.rest.length + 1) ⟨[], [], [], true⟩ next
      quoted quote fuel (acc ++ g.text) next

/-- What becomes of the line breaks at the end of a block of lines: all but one go, all go, or all
stay. -/
inductive Chomping where
  | clip
  | strip
  | keep
  deriving DecidableEq

/-- The indicators after the sign that opens a block of lines: its chomping, and how much deeper than
the enclosing block it stands, if that is given. -/
def blockHeader? (c : Cursor) : Option (Chomping × Option Nat × Cursor) :=
  let chomping? (x : Char) : Option Chomping :=
    if x == '+' then some .keep else if x == '-' then some .strip else none
  let chompFirst (chomping : Chomping) (c : Cursor) : Option (Chomping × Option Nat × Cursor) :=
    match c.rest with
    | d :: _ =>
      if d == '0' then none
      else if d.isDigit then some (chomping, some (d.toNat - 48), c.skip 1)
      else some (chomping, none, c)
    | [] => some (chomping, none, c)
  match c.rest with
  | [] => some (.clip, none, c)
  | x :: rest =>
    match chomping? x with
    | some chomping => chompFirst chomping (c.skip 1)
    | none =>
      if x == '0' then none
      else if x.isDigit then
        let step := x.toNat - 48
        match rest.head?.bind chomping? with
        | some chomping => some (chomping, some step, c.skip 2)
        | none => some (.clip, some step, c.skip 1)
      else some (.clip, none, c)

/-- Passes the indentation of the next line of a block, and the empty lines before it, whose breaks it
gives; with no known indentation, it also gives the deepest column that it saw. -/
def blockBreaks (indent : Nat) : (fuel : Nat) → List Char → (deepest : Nat) → Cursor →
    Option (List Char × Nat × Cursor)
  | 0, breaks, deepest, c => some (breaks, deepest, c)
  | fuel + 1, breaks, deepest, c =>
    let leading := (c.rest.takeWhile (· == ' ')).length
    let c := c.skip (if indent = 0 then leading else min leading (indent - c.column))
    let deepest := max deepest c.column
    if (indent = 0 ∨ c.column < indent) ∧ c.rest.head? = some '\t' then none
    else
      match c.takeBreak? with
      | some (b, c) => blockBreaks indent fuel (breaks ++ [b]) deepest c
      | none => some (breaks, deepest, c)

/-- What was read of a block of lines: its text, the break after the last line, the breaks of the empty
lines after that, and whether the last line begins with a blank. -/
structure Block where
  text : List Char
  last : List Char
  trailing : List Char
  blankLine : Bool

/-- Reads the lines of a block; in a folded one, a break between two lines that do not begin with a
blank is a space. -/
def blockLines (literal : Bool) (indent : Nat) : (fuel : Nat) → Block → Cursor → Option (Block × Cursor)
  | 0, b, c => some (b, c)
  | fuel + 1, b, c =>
    if c.column ≠ indent ∨ c.rest.isEmpty then some (b, c)
    else do
      let blank := c.rest.head?.any isBlank
      let join :=
        if !literal && b.last == ['\n'] && !b.blankLine && !blank then
          if b.trailing.isEmpty then [' '] else []
        else b.last
      let line := c.rest.takeWhile (!isBreak ·)
      let c := c.skip line.length
      let (last, c) := match c.takeBreak? with
        | some (x, c) => ([x], c)
        | none => ([], c)
      let (trailing, _, c) ← blockBreaks indent (c.rest.length + 1) [] 0 c
      blockLines literal indent fuel ⟨b.text ++ join ++ b.trailing ++ line, last, trailing, blank⟩ c

/-- Reads a block of lines after the sign that opens it, inside a block with the given indentation. -/
def block (literal : Bool) (outer : Int) (c : Cursor) : Option (List Char × Cursor) := do
  let (chomping, step, c) ← blockHeader? c
  let c := c.skipWhile isBlank
  let c := if c.rest.head? == some '#' then c.skipLine else c
  if !endsLine c.rest then none
  let c := match c.takeBreak? with
    | some (_, c) => c
    | none => c
  let given := match step with
    | some step => (max outer 0).toNat + step
    | none => 0
  let (breaks, deepest, c) ← blockBreaks given (c.rest.length + 1) [] 0 c
  let indent := if given = 0 then max deepest (max (outer + 1).toNat 1) else given
  let (b, c) ← blockLines literal indent (c.rest.length + 1) ⟨[], [], breaks, false⟩ c
  match chomping with
  | .clip => return (b.text ++ b.last, c)
  | .strip => return (b.text, c)
  | .keep => return (b.text ++ b.last ++ b.trailing, c)

end Relay.Yaml
