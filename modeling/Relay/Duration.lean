import Relay.Power

namespace Relay

/-- A length of time. -/
structure Duration where
  nanos : Nat
  deriving DecidableEq, Repr, Inhabited

namespace Duration

/-- The longest length of time: all seconds of 64 bits, and all nanoseconds of the last one. -/
def longest : Duration := ⟨2 ^ 64 * 1000000000 - 1⟩

def ofSeconds (n : Nat) : Duration := ⟨n * 1000000000⟩

def ofMillis (n : Nat) : Duration := ⟨n * 1000000⟩

def seconds (d : Duration) : Nat := d.nanos / 1000000000

def subsecNanos (d : Duration) : Nat := d.nanos % 1000000000

/-- The digits of `n` after the point, when one stands for `unit` (a power of ten) parts; none for a
whole number. -/
def fractionDigits (unit n : Nat) : List Char :=
  if h : n = 0 ∨ unit ≤ 1 then []
  else Char.ofNat (48 + n / (unit / 10)) :: fractionDigits (unit / 10) (n % (unit / 10))
termination_by unit
decreasing_by omega

def decimal (unit n : Nat) : String :=
  match fractionDigits unit (n % unit) with
  | [] => toString (n / unit)
  | digits => toString (n / unit) ++ "." ++ String.ofList digits

/-- A length of time in the largest of the units s, ms, µs and ns that it fills. -/
def text (d : Duration) : String :=
  if 1000000000 ≤ d.nanos then decimal 1000000000 d.nanos ++ "s"
  else if 1000000 ≤ d.nanos then decimal 1000000 d.nanos ++ "ms"
  else if 1000 ≤ d.nanos then decimal 1000 d.nanos ++ "µs"
  else toString d.nanos ++ "ns"

end Duration

end Relay
