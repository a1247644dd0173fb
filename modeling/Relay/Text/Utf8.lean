namespace Relay.Utf8

/-- Why a byte string is not UTF-8: a character is spelt wrongly, or the last one is cut short. -/
inductive Fault where
  | invalid (length index : Nat)
  | incomplete (index : Nat)
  deriving DecidableEq, Repr

def Fault.message : Fault → String
  | .invalid length index => s!"invalid utf-8 sequence of {length} bytes from index {index}"
  | .incomplete index => s!"incomplete utf-8 byte sequence from index {index}"

def isTail (b : UInt8) : Bool := 0x80 ≤ b && b ≤ 0xBF

def width (b : UInt8) : Option Nat :=
  if b ≤ 0x7F then some 1
  else if 0xC2 ≤ b && b ≤ 0xDF then some 2
  else if 0xE0 ≤ b && b ≤ 0xEF then some 3
  else if 0xF0 ≤ b && b ≤ 0xF4 then some 4
  else none

/-- The second bytes that may follow `b`: neither overlong, nor a surrogate, nor above the last
code point. -/
def isSecond (b next : UInt8) : Bool :=
  if b == 0xE0 then 0xA0 ≤ next && next ≤ 0xBF
  else if b == 0xED then 0x80 ≤ next && next ≤ 0x9F
  else if b == 0xF0 then 0x90 ≤ next && next ≤ 0xBF
  else if b == 0xF4 then 0x80 ≤ next && next ≤ 0x8F
  else isTail next

/-- What stands at the front of a byte string: a whole character of some bytes, or a fault. -/
inductive Front where
  | character (length : Nat)
  | faulty (length : Nat)
  | cut
  deriving DecidableEq, Repr

/-- Reads the bytes after the first, of which `seen` were good; the character has `total`. -/
def frontTail (total seen : Nat) : List UInt8 → Front
  | [] => if seen = total then .character total else .cut
  | b :: rest =>
    if seen = total then .character total
    else if isTail b then frontTail total (seen + 1) rest
    else .faulty seen

/-- Classifies the first character of a nonempty byte string. -/
def front (b : UInt8) (rest : List UInt8) : Front :=
  match width b with
  | none => .faulty 1
  | some 1 => .character 1
  | some total =>
    match rest with
    | [] => .cut
    | next :: more => if isSecond b next then frontTail total 2 more else .faulty 1

/-- The first fault of a byte string, read from `index` on, with `skip` bytes of the current
character still to pass. -/
def firstFault (index skip : Nat) : List UInt8 → Option Fault
  | [] => none
  | b :: rest =>
    match skip with
    | skip + 1 => firstFault (index + 1) skip rest
    | 0 =>
      match front b rest with
      | .character length => firstFault (index + 1) (length - 1) rest
      | .faulty length => some (.invalid length index)
      | .cut => some (.incomplete index)

/-- The text that a byte string encodes, or its first fault. -/
def decode (bytes : List UInt8) : Except Fault String :=
  match String.fromUTF8? ⟨bytes.toArray⟩ with
  | some text => .ok text
  | none => .error ((firstFault 0 0 bytes).getD (.incomplete 0))

/-- The bytes that stand for a fault: the replacement character. -/
def replacement : List UInt8 := [0xEF, 0xBF, 0xBD]

/-- A byte string with the replacement character in place of each fault. Of the next `skip` bytes, which
were looked at already, the good ones are kept. -/
def mendFrom (skip : Nat) (good : Bool) : List UInt8 → List UInt8
  | [] => []
  | b :: rest =>
    match skip with
    | skip + 1 => if good then b :: mendFrom skip good rest else mendFrom skip good rest
    | 0 =>
      match front b rest with
      | .character length => b :: mendFrom (length - 1) true rest
      | .faulty length => replacement ++ mendFrom (length - 1) false rest
      | .cut => replacement

/-- A byte string that is well formed, with the replacement character in place of each fault. -/
def mend (bytes : List UInt8) : List UInt8 := mendFrom 0 true bytes

def encode (text : String) : List UInt8 := text.toUTF8.toList

end Relay.Utf8
