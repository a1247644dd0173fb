import Relay.Net.Ipv4
import Relay.Text.Hex

namespace Relay

/-- Eight groups of sixteen bits. -/
structure Ipv6 where
  groups : List UInt16
  deriving DecidableEq, Repr, Inhabited

namespace Ipv6

def group? (ds : List Char) : Option UInt16 :=
  if ds.isEmpty || 4 < ds.length then none else (Text.natOfHex? ds).map UInt16.ofNat

/-- Groups with colons between them; the last two may be written as an IPv4 address. -/
def groups? (ipv4Allowed : Bool) (cs : List Char) : Option (List UInt16) :=
  let rec go : List (List Char) → Option (List UInt16)
    | [] => some []
    | [last] =>
      match group? last with
      | some g => some [g]
      | none =>
        if ipv4Allowed then
          (Ipv4.parse? (String.ofList last)).map fun i =>
            [i.a.toUInt16 * 256 + i.b.toUInt16, i.c.toUInt16 * 256 + i.d.toUInt16]
        else none
    | part :: rest => do
      let g ← group? part
      return g :: (← go rest)
  if cs.isEmpty then some [] else go (Text.splitAll ':' cs)

/-- The address that a text spells; two colons stand for one or more groups of zeros. -/
def parse? (text : String) : Option Ipv6 :=
  match Text.splitAtFirst? [':', ':'] text.toList with
  | none => ((groups? true text.toList).filter (·.length == 8)).map Ipv6.mk
  | some (before, after) => do
    let head ← groups? false before
    let tail ← groups? true after
    if 7 < head.length + tail.length then none
    return ⟨head ++ List.replicate (8 - head.length - tail.length) 0 ++ tail⟩

end Ipv6

end Relay
