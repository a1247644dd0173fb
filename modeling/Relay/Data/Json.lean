import Relay.Power
import Relay.Text.Hex

namespace Relay

/-- A JSON document; the members of an object have distinct keys. Whole numbers of 64 bits stay
exact, and others are the bits of a floating-point number. -/
inductive Json where
  | null
  | bool (value : Bool)
  | int (value : Int)
  | float (bits : UInt64)
  | string (value : String)
  | array (items : List Json)
  | object (members : List (String × Json))
  deriving Repr, Inhabited

namespace Json

/-- The least text that an object or array is built from. -/
inductive Token where
  | open (bracket : Bool)
  | close (bracket : Bool)
  | comma
  | colon
  | scalar (value : Json)
  | text (value : String)

/-- The character after a backslash, but for numbered ones. -/
def escaped? : Char → Option Char
  | '"' => some '"'
  | '\\' => some '\\'
  | '/' => some '/'
  | 'b' => some '\x08'
  | 'f' => some '\x0c'
  | 'n' => some '\n'
  | 'r' => some '\r'
  | 't' => some '\t'
  | _ => none

/-- Reads a text after its opening quote, up to its closing one; `acc` holds what was read, reversed,
and `high` the first half of a surrogate pair that waits for the second. -/
def readText (acc : List Char) (high : Option Nat) : List Char → Option (String × List Char)
  | [] => none
  | '\\' :: 'u' :: a :: b :: c :: d :: rest =>
    match Text.natOfHex? [a, b, c, d], high with
    | none, _ => none
    | some n, some h =>
      if 0xDC00 ≤ n && n ≤ 0xDFFF then
        readText (Char.ofNat (0x10000 + (h - 0xD800) * 0x400 + (n - 0xDC00)) :: acc) none rest
      else none
    | some n, none =>
      if 0xD800 ≤ n && n ≤ 0xDBFF then readText acc (some n) rest
      else if 0xDC00 ≤ n && n ≤ 0xDFFF then none
      else readText (Char.ofNat n :: acc) none rest
  | '\\' :: c :: rest =>
    match escaped? c, high with
    | some e, none => readText (e :: acc) none rest
    | _, _ => none
  | c :: rest =>
    if high.isSome || c.toNat < 32 || c == '\\' then none
    else if c == '"' then some (String.ofList acc.reverse, rest)
    else readText (c :: acc) none rest

def powerOfTen (n : Nat) : Float := Float.ofScientific 1 false n

/-- Divides by a power of ten in steps that a floating-point number can hold. -/
def scaleDown : (fuel : Nat) → Float → Nat → Float
  | 0, f, _ => f
  | fuel + 1, f, n =>
    if n ≤ 308 then f / powerOfTen n
    else if f == 0.0 then f
    else scaleDown fuel (f / powerOfTen 308) (n - 308)

/-- The floating-point number nearest to a whole one of 64 bits, times a power of ten; none when it is
too large. -/
def scaled? (significand : Nat) (exponent : Int) : Option Float :=
  let f := (UInt64.ofNat significand).toFloat
  if 0 ≤ exponent then
    if exponent.toNat ≤ 308 then
      let g := f * powerOfTen exponent.toNat
      if g.isInf then none else some g
    else if f == 0.0 then some f
    else none
  else some (scaleDown 4 f (-exponent).toNat)

def digits (cs : List Char) : List Char × List Char := cs.span Char.isDigit

/-- Adds digits to a number while it fits 64 bits: the number, how many were added, and how many were
left over. -/
def accumulate (n : Nat) : List Char → Nat × Nat × Nat
  | [] => (n, 0, 0)
  | c :: rest =>
    let next := n * 10 + (c.toNat - 48)
    if 2 ^ 64 ≤ next then (n, 0, rest.length + 1)
    else
      let (value, added, left) := accumulate next rest
      (value, added + 1, left)

def readExponent? (cs : List Char) : Option (Option Int × List Char) :=
  match cs with
  | c :: rest =>
    if c == 'e' || c == 'E' then
      let (negative, rest) := match rest with
        | '-' :: rest => (true, rest)
        | '+' :: rest => (false, rest)
        | rest => (false, rest)
      match digits rest with
      | ([], _) => none
      | (ds, rest) =>
        let n : Nat := ds.foldl (fun n d => min (n * 10 + (d.toNat - 48)) (2 ^ 31)) 0
        some (some (if negative then -n else n), rest)
    else some (none, cs)
  | [] => some (none, cs)

def readNumber (negative : Bool) (cs : List Char) : Option (Json × List Char) := do
  let (whole, rest) := digits cs
  match whole with
  | [] => none
  | '0' :: _ :: _ => none
  | _ =>
    let (significand, _, dropped) := accumulate 0 whole
    let (fraction, rest) ← match rest with
      | '.' :: rest =>
        match digits rest with
        | ([], _) => none
        | (ds, rest) => some (some ds, rest)
      | rest => some (none, rest)
    let (exponent, rest) ← readExponent? rest
    if fraction.isNone && exponent.isNone && dropped == 0 then
      if negative && (significand == 0 || 2 ^ 63 < significand) then
        return (.float (-(UInt64.ofNat significand).toFloat).toBits, rest)
      else return (.int (if negative then -significand else significand), rest)
    else
      let (significand, added, _) := accumulate significand (fraction.getD [])
      let f ← scaled? significand ((dropped : Int) - added + exponent.getD 0)
      return (.float (if negative then -f else f).toBits, rest)

def after? (word : String) (cs : List Char) : Option (List Char) :=
  if word.toList.isPrefixOf cs then some (cs.drop word.length) else none

/-- The tokens of a text; none when some part of it is no token. Each takes a character or more, so
fuel for all characters suffices. -/
def tokens : (fuel : Nat) → List Char → Option (List Token)
  | 0, _ => none
  | _ + 1, [] => some []
  | fuel + 1, c :: rest =>
    let emit (token : Token) (rest : List Char) := (tokens fuel rest).map (token :: ·)
    match c with
    | ' ' | '\n' | '\r' | '\t' => tokens fuel rest
    | '\x7b' => emit (.open false) rest
    | '\x7d' => emit (.close false) rest
    | '[' => emit (.open true) rest
    | ']' => emit (.close true) rest
    | ',' => emit .comma rest
    | ':' => emit .colon rest
    | '"' => (readText [] none rest).bind fun (text, rest) => emit (.text text) rest
    | 'n' => (after? "ull" rest).bind (emit (.scalar .null))
    | 't' => (after? "rue" rest).bind (emit (.scalar (.bool true)))
    | 'f' => (after? "alse" rest).bind (emit (.scalar (.bool false)))
    | '-' => (readNumber true rest).bind fun (value, rest) => emit (.scalar value) rest
    | c => (readNumber false (c :: rest)).bind fun (value, rest) => emit (.scalar value) rest

/-- An array or object that is not closed yet, with its parts in reverse. -/
inductive Pending where
  | array (items : List Json)
  | object (members : List (String × Json)) (key : String)

/-- Members with distinct keys, in the order of their first mention; the last value of a key counts. -/
def distinct (members : List (String × Json)) : List (String × Json) :=
  members.foldl (fun done (key, value) =>
    if done.any (·.1 == key) then done.map fun m => if m.1 == key then (key, value) else m
    else done ++ [(key, value)]) []

inductive Expected where
  | value
  | valueOrEnd
  | keyOrEnd (members : List (String × Json))
  | key (members : List (String × Json))
  | colon (members : List (String × Json)) (key : String)
  | next (value : Json)

/-- The containers that may be open at once. -/
def depthLimit : Nat := 127

def build (pending : List Pending) (expected : Expected) : List Token → Option Json
  | [] =>
    match expected, pending with
    | .next value, [] => some value
    | _, _ => none
  | token :: rest =>
    let enter (bracket : Bool) :=
      if depthLimit ≤ pending.length then none
      else if bracket then build (.array [] :: pending) .valueOrEnd rest
      else build pending (.keyOrEnd []) rest
    match expected, token with
    | .value, .open bracket => enter bracket
    | .value, .scalar value => build pending (.next value) rest
    | .value, .text text => build pending (.next (.string text)) rest
    | .valueOrEnd, .open bracket => enter bracket
    | .valueOrEnd, .scalar value => build pending (.next value) rest
    | .valueOrEnd, .text text => build pending (.next (.string text)) rest
    | .valueOrEnd, .close true => build pending.tail (.next (.array [])) rest
    | .keyOrEnd members, .text key => build pending (.colon members key) rest
    | .keyOrEnd _, .close false => build pending (.next (.object [])) rest
    | .key members, .text key => build pending (.colon members key) rest
    | .colon members key, .colon => build (.object members key :: pending) .value rest
    | .next value, .comma =>
      match pending with
      | .array items :: outer => build (.array (value :: items) :: outer) .value rest
      | .object members key :: outer => build outer (.key ((key, value) :: members)) rest
      | [] => none
    | .next value, .close true =>
      match pending with
      | .array items :: outer => build outer (.next (.array (value :: items).reverse)) rest
      | _ => none
    | .next value, .close false =>
      match pending with
      | .object members key :: outer =>
        build outer (.next (.object (distinct ((key, value) :: members).reverse))) rest
      | _ => none
    | _, _ => none

def parse? (text : String) : Option Json :=
  (tokens (text.length + 1) text.toList).bind (build [] .value)

def member? : Json → String → Option Json
  | .object members, key => (members.find? (·.1 == key)).map (·.2)
  | _, _ => none

end Json

end Relay
