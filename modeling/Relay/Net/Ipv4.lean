import Relay.Text.Split

namespace Relay

structure Ipv4 where
  a : UInt8
  b : UInt8
  c : UInt8
  d : UInt8
  deriving DecidableEq, Repr, Inhabited

namespace Ipv4

/-- An octet: one to three digits, no zero in front of others. -/
def octet? (ds : List Char) : Option UInt8 :=
  match ds with
  | '0' :: _ :: _ => none
  | _ =>
    if 3 < ds.length then none
    else ((Text.natOfDigits? ds).filter (· < 256)).map UInt8.ofNat

/-- The address that four octets with points between them spell. -/
def parse? (text : String) : Option Ipv4 :=
  match Text.splitAll '.' text.toList with
  | [a, b, c, d] => do return ⟨← octet? a, ← octet? b, ← octet? c, ← octet? d⟩
  | _ => none

def text (i : Ipv4) : String := s!"{i.a}.{i.b}.{i.c}.{i.d}"

/-- Whether an address names a group of receivers. -/
def isMulticast (i : Ipv4) : Bool := 224 ≤ i.a && i.a ≤ 239

end Ipv4

end Relay
