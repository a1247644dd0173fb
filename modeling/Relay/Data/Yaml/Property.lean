import Relay.Data.Yaml.Cursor
import Relay.Text.Hex
import Relay.Text.Utf8

namespace Relay.Yaml

def isNameChar (c : Char) : Bool := c.isAlphanum || c == '_' || c == '-'

/-- The name of an anchor or an alias, behind its sign. -/
def name? (c : Cursor) : Option (String × Cursor) :=
  let name := c.rest.takeWhile isNameChar
  let next := c.skip name.length
  let ends := endsWord next.rest || next.rest.head?.any "?:,]\x7d%@\x60".toList.contains
  if name.isEmpty || !ends then none else some (String.ofList name, next)

/-- Characters of a tag other than its escapes; one in angle brackets has more of them. -/
def isTagChar (verbatim : Bool) (c : Char) : Bool :=
  isNameChar c || ";/?:@&=+$.!~*'()".toList.contains c || (verbatim && ",[]".toList.contains c)

/-- How many bytes of a character follow one with a given value at its front. -/
def bytesAfter? (first : Nat) : Option Nat :=
  if first < 0x80 then some 0
  else if first / 32 = 6 then some 1
  else if first / 16 = 14 then some 2
  else if first / 8 = 30 then some 3
  else none

/-- The bytes of a tag up to the first character that is none of it, which of them may be escaped;
`after` more bytes must be, because they belong to the character before. -/
def tagBytes? (verbatim : Bool) : (after : Nat) → List Char → Option (List UInt8 × List Char)
  | after, '%' :: high :: low :: rest => do
    let byte := (← Text.hexDigit? high) * 16 + (← Text.hexDigit? low)
    let after ← match after with
      | 0 => bytesAfter? byte
      | after + 1 => if byte / 64 = 2 then some after else none
    let (bytes, rest) ← tagBytes? verbatim after rest
    return (byte.toUInt8 :: bytes, rest)
  | _ + 1, _ => none
  | 0, [] => some ([], [])
  | 0, c :: rest =>
    if c == '%' then none
    else if isTagChar verbatim c then do
      let (bytes, rest) ← tagBytes? verbatim 0 rest
      return (c.toNat.toUInt8 :: bytes, rest)
    else some ([], c :: rest)

def tagText? (verbatim : Bool) (c : Cursor) : Option (String × Cursor) := do
  let (bytes, rest) ← tagBytes? verbatim 0 c.rest
  let text := (Utf8.decode (Utf8.mend bytes)).toOption.getD ""
  return (text, c.skip (c.rest.length - rest.length))

/-- An exclamation mark, and a name and a second mark if they follow. -/
def handle? (c : Cursor) : Option (String × Cursor) :=
  match c.rest with
  | '!' :: rest =>
    let name := rest.takeWhile isNameChar
    match rest.drop name.length with
    | '!' :: _ => some (String.ofList ('!' :: name ++ ['!']), c.skip (name.length + 2))
    | _ => some (String.ofList ('!' :: name), c.skip (name.length + 1))
  | _ => none

def isClosedHandle (handle : String) : Bool :=
  1 < handle.length && handle.toList.getLast? == some '!'

def verbatimTag? (c : Cursor) : Option (String × String × Cursor) := do
  let (text, next) ← tagText? true (c.skip 2)
  if text.isEmpty || next.rest.head? != some '>' then none
  return ("", text, next.skip 1)

/-- A tag that begins with a handle; an exclamation mark alone is a tag of its own. -/
def shortTag? (c : Cursor) : Option (String × String × Cursor) := do
  let (handle, next) ← handle? c
  let (text, next) ← tagText? false next
  if isClosedHandle handle then
    if text.isEmpty then none
    return (handle, text, next)
  else
    let suffix := String.ofList handle.toList.tail ++ text
    return if suffix.isEmpty then ("", "!", next) else ("!", suffix, next)

/-- A tag, as a handle and what follows it. The handle is empty if the tag is written out. -/
def tag? (inFlow : Bool) (c : Cursor) : Option (String × String × Cursor) := do
  let (handle, suffix, next) ←
    if ['!', '<'].isPrefixOf c.rest then verbatimTag? c else shortTag? c
  if endsWord next.rest || (inFlow && next.rest.head? == some ',') then return (handle, suffix, next)
  else none

/-- What a directive says: the version of the language, or what a handle stands for. -/
inductive Directive where
  | version (major minor : Nat)
  | handle (handle text : String)
  deriving DecidableEq, Repr

def versionNumber? (c : Cursor) : Option (Nat × Cursor) :=
  let digits := c.rest.takeWhile Char.isDigit
  if digits.isEmpty || 9 < digits.length then none
  else some (digits.foldl (fun n d => n * 10 + (d.toNat - 48)) 0, c.skip digits.length)

def lineEnd? (c : Cursor) : Option Cursor :=
  let c := c.skipWhile isBlank
  let c := if c.rest.head? == some '#' then c.skipLine else c
  if endsLine c.rest then some ((c.takeBreak?.map (·.2)).getD c) else none

def directive? (c : Cursor) : Option (Directive × Cursor) := do
  let name := c.rest.takeWhile isNameChar
  let next := c.skip name.length
  if !endsWord next.rest then none
  let next := next.skipWhile isBlank
  match String.ofList name with
  | "YAML" =>
    let (major, next) ← versionNumber? next
    if next.rest.head? != some '.' then none
    let (minor, next) ← versionNumber? (next.skip 1)
    return (.version major minor, ← lineEnd? next)
  | "TAG" =>
    let (handle, next) ← handle? next
    if handle != "!" && !isClosedHandle handle then none
    if !next.rest.head?.any isBlank then none
    let (text, next) ← tagText? true (next.skipWhile isBlank)
    if text.isEmpty || !endsWord next.rest then none
    return (.handle handle text, ← lineEnd? next)
  | _ => none

/-- The handles that need no directive. -/
def standardHandles : List (String × String) := [("!", "!"), ("!!", "tag:yaml.org,2002:")]

/-- What handles stand for after directives: none if two are about the same, or about a version that is
not one of the two known ones. -/
def handles? (directives : List Directive) : Option (List (String × String)) := do
  let versions := directives.filterMap fun
    | .version major minor => some (major, minor)
    | .handle _ _ => none
  let given := directives.filterMap fun
    | .version _ _ => none
    | .handle handle text => some (handle, text)
  if 1 < versions.length || !versions.all [(1, 1), (1, 2)].contains then none
  if (given.map (·.1)).eraseDups.length < given.length then none
  return given ++ standardHandles

end Relay.Yaml
