namespace Relay.Yaml

def isBreak (c : Char) : Bool :=
  c == '\n' || c == '\r' || c == '\x85' || c == '\u2028' || c == '\u2029'

def isBlank (c : Char) : Bool := c == ' ' || c == '\t'

/-- Whether a word ends before the given characters: at a blank, a line break or the end. -/
def endsWord : List Char → Bool
  | [] => true
  | c :: _ => isBlank c || isBreak c

def endsLine : List Char → Bool
  | [] => true
  | c :: _ => isBreak c

def isAllowed (c : Char) : Bool :=
  let n := c.toNat
  n == 0x09 || n == 0x0a || n == 0x0d || (0x20 ≤ n && n ≤ 0x7e) || n == 0x85 ||
    (0xa0 ≤ n && n ≤ 0xfffd) || 0x10000 ≤ n

/-- A place in a text: what follows it, and how many characters, lines, and characters of its line
come before it. -/
structure Cursor where
  rest : List Char
  index : Nat
  line : Nat
  column : Nat

namespace Cursor

def start (text : String) : Cursor := ⟨text.toList, 0, 0, 0⟩

def skip (c : Cursor) (n : Nat) : Cursor := ⟨c.rest.drop n, c.index + n, c.line, c.column + n⟩

/-- Passes the characters of a line for as long as a condition holds. -/
def skipWhile (c : Cursor) (p : Char → Bool) : Cursor := c.skip (c.rest.takeWhile p).length

def skipLine (c : Cursor) : Cursor := c.skipWhile (!isBreak ·)

/-- Passes a line break, and gives the character that it stands for in a value. -/
def takeBreak? (c : Cursor) : Option (Char × Cursor) :=
  match c.rest with
  | '\r' :: '\n' :: rest => some ('\n', ⟨rest, c.index + 2, c.line + 1, 0⟩)
  | b :: rest =>
    if isBreak b then
      let value := if b == '\u2028' || b == '\u2029' then b else '\n'
      some (value, ⟨rest, c.index + 1, c.line + 1, 0⟩)
    else none
  | [] => none

/-- Whether a line begins here with the marker of a document. -/
def atMarker (c : Cursor) (marker : String) : Bool :=
  c.column == 0 && marker.toList.isPrefixOf c.rest && endsWord (c.rest.drop marker.length)

/-- Whether a line begins here with the marker of the start or end of a document. -/
def atDocument (c : Cursor) : Bool := c.atMarker "---" || c.atMarker "..."

end Cursor

end Relay.Yaml
