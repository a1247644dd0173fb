import Relay.Bytes.BigEndian
import Relay.Text.Utf8

namespace Relay.Message

inductive Width where
  | w8 | w16 | w32 | w64
  deriving DecidableEq, Repr

namespace Width

def bytes : Width → Nat
  | .w8 => 1
  | .w16 => 2
  | .w32 => 4
  | .w64 => 8

def bits (w : Width) : Nat := 8 * w.bytes

end Width

/-- What a payload holds: raw bytes, owned bytes, text, a whole number, or a floating-point number. -/
inductive Kind where
  | raw
  | bytes
  | text
  | unsigned (w : Width)
  | signed (w : Width)
  | single
  | double
  deriving DecidableEq, Repr

/-- A whole number that fits a width in two's complement. -/
structure Signed (w : Width) where
  val : Int
  lower : -(2 ^ (w.bits - 1)) ≤ val
  upper : val < 2 ^ (w.bits - 1)

/-- The values of a kind; a floating-point number is its bits. -/
abbrev Kind.Value : Kind → Type
  | .raw | .bytes => List UInt8
  | .text => String
  | .unsigned w => Fin (2 ^ w.bits)
  | .signed w => Signed w
  | .single => UInt32
  | .double => UInt64

def Kind.name : Kind → String
  | .raw => "bytes"
  | .bytes => "vec"
  | .text => "string"
  | .unsigned w => s!"u{w.bits}"
  | .signed w => s!"i{w.bits}"
  | .single => "f32"
  | .double => "f64"

def Kind.all : List Kind :=
  let widths := [Width.w8, .w16, .w32, .w64]
  [.raw, .bytes, .text, .single, .double] ++ widths.map .unsigned ++ widths.map .signed

def Kind.ofName? (name : String) : Option Kind := Kind.all.find? (·.name == name)

/-- The length of every encoding of a kind, where it has one. -/
def Kind.fixedLength : Kind → Option Nat
  | .raw | .bytes | .text => none
  | .unsigned w | .signed w => some w.bytes
  | .single => some 4
  | .double => some 8

/-- Why a payload holds no value of a kind. -/
inductive Error where
  | invalidLength (kind : Kind) (expected actual : Nat)
  | invalidText (fault : Utf8.Fault)
  deriving DecidableEq, Repr

def Error.message : Error → String
  | .invalidLength kind expected actual => s!"expected {expected} bytes for {kind.name}, got {actual}"
  | .invalidText fault => "payload is not valid UTF-8: " ++ fault.message

/-- The number below `2 ^ bits` that stands for a signed one in two's complement. -/
def Signed.toNat {w : Width} (s : Signed w) : Nat := (s.val % 2 ^ w.bits).toNat

/-- The signed number that a number below `2 ^ bits` stands for in two's complement. -/
def Signed.ofNat (w : Width) (n : Nat) : Signed w where
  val := (n : Int).bmod (2 ^ w.bits)
  lower := by
    have := Int.le_bmod (x := n) (m := 2 ^ w.bits) (Nat.pow_pos (by decide))
    cases w <;> simp_all [Width.bits, Width.bytes]
  upper := by
    have := Int.bmod_lt (x := n) (m := 2 ^ w.bits) (Nat.pow_pos (by decide))
    cases w <;> simp_all [Width.bits, Width.bytes]

def Signed.ofInt? (w : Width) (i : Int) : Option (Signed w) :=
  if h : -(2 ^ (w.bits - 1)) ≤ i ∧ i < 2 ^ (w.bits - 1) then some ⟨i, h.1, h.2⟩ else none

/-- Appends the bytes of a value to a buffer. -/
def Kind.append (k : Kind) (v : k.Value) (buffer : List UInt8) : List UInt8 :=
  match k, v with
  | .raw, v => buffer ++ v
  | .bytes, v => buffer ++ v
  | .text, v => buffer ++ Utf8.encode v
  | .unsigned w, v => buffer ++ BigEndian.bytes w.bytes v.val
  | .signed w, v => buffer ++ BigEndian.bytes w.bytes v.toNat
  | .single, v => buffer ++ BigEndian.bytes 4 v.toNat
  | .double, v => buffer ++ BigEndian.bytes 8 v.toNat

/-- The bytes of a value, in a buffer of their own; raw bytes are that buffer. -/
def Kind.encode : (k : Kind) → k.Value → List UInt8
  | .raw, v => v
  | k, v => k.append v []

/-- The number that a payload of exactly `length` bytes spells. -/
def wordOf (k : Kind) (length : Nat) (payload : List UInt8) : Except Error Nat :=
  if payload.length = length then .ok (BigEndian.value payload)
  else .error (.invalidLength k length payload.length)

def Kind.decode : (k : Kind) → List UInt8 → Except Error k.Value
  | .raw, payload => .ok payload
  | .bytes, payload => .ok payload
  | .text, payload => (Utf8.decode payload).mapError .invalidText
  | .unsigned w, payload =>
    (wordOf (.unsigned w) w.bytes payload).map (Fin.ofNat (2 ^ w.bits) ·)
  | .signed w, payload => (wordOf (.signed w) w.bytes payload).map (Signed.ofNat w)
  | .single, payload => (wordOf .single 4 payload).map UInt32.ofNat
  | .double, payload => (wordOf .double 8 payload).map UInt64.ofNat

end Relay.Message
