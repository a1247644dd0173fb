import Relay.Power

namespace Relay.Text.Float

/-- A finite positive number `mantissa * 2 ^ (exponent - 1075)`; `narrow` says that its lower
neighbour is only half as far away as its upper one. -/
structure Binary where
  mantissa : Nat
  exponent : Nat
  narrow : Bool

/-- The number that the low 63 bits of a float spell; none of zero, infinity and not-a-number. -/
def binary? (bits : UInt64) : Option Binary :=
  let fraction := bits.toNat % 2 ^ 52
  let biased := bits.toNat / 2 ^ 52 % 2048
  if biased = 2047 then none
  else if biased = 0 then (if fraction = 0 then none else some ⟨fraction, 1, false⟩)
  else some ⟨2 ^ 52 + fraction, biased, fraction = 0 && 1 < biased⟩

/-- Whether bits are those of a number that is neither infinite nor not-a-number. -/
def isFinite (bits : UInt64) : Bool := bits.toNat / 2 ^ 52 % 2048 != 2047

/-- Decimal digits without trailing zeros, and the power of ten that the last one counts. -/
structure Decimal where
  digits : Nat
  exponent : Int

/-- The point of the grid of multiples of `unit` that lies between `low` and `high`, the nearest one
to `value` if there are two. -/
def gridPoint? (value low high unit : Nat) (inclusive : Bool) : Option Nat :=
  let inside (n : Nat) := if inclusive then low ≤ n && n ≤ high else low < n && n < high
  let below := value / unit
  let above := below + 1
  let distance (n : Nat) := if n * unit ≤ value then value - n * unit else n * unit - value
  match inside (below * unit), inside (above * unit) with
  | true, true => if distance above < distance below then some above else some below
  | true, false => some below
  | false, true => some above
  | false, false => none

/-- Removes trailing zeros from digits. -/
def normalize : (fuel : Nat) → Decimal → Decimal
  | 0, d => d
  | fuel + 1, d =>
    if d.digits ≠ 0 ∧ d.digits % 10 = 0 then normalize fuel ⟨d.digits / 10, d.exponent + 1⟩ else d

/-- The first grid, from coarse to fine, with a point that reads back. -/
def search (value low high : Nat) (inclusive : Bool) : (fuel : Nat) → (place : Nat) → Decimal
  | 0, place => ⟨value / (2 ^ 1076 * 10 ^ place), (place : Int) - 345⟩
  | fuel + 1, place =>
    match gridPoint? value low high (2 ^ 1076 * 10 ^ place) inclusive with
    | some n => normalize 20 ⟨n, (place : Int) - 345⟩
    | none => search value low high inclusive fuel (place - 1)

/-- The fewest digits that read back as a number. On the scale of `2 ^ 1076 * 10 ^ 345`, the number,
the points halfway to its neighbours and all decimal grids in question are whole. -/
def shortest (b : Binary) : Decimal :=
  let half := 2 ^ b.exponent * 10 ^ 345
  let value := 2 * b.mantissa * half
  let low := value - if b.narrow then half / 2 else half
  let place := (Nat.toDigits 10 (value / 2 ^ 1076)).length - 1
  search value low (value + half) (b.mantissa % 2 == 0) 18 place

def zeros (n : Nat) : String := String.ofList (List.replicate n '0')

def pointed (digits : String) (whole : Nat) : String :=
  (digits.take whole).toString ++ "." ++ (digits.drop whole).toString

/-- Digits without an exponent, and without a point after a whole number. -/
def positional (d : Decimal) : String :=
  let text := toString d.digits
  let whole := (text.length : Int) + d.exponent
  if 0 ≤ d.exponent then text ++ zeros d.exponent.toNat
  else if 0 < whole then pointed text whole.toNat
  else "0." ++ zeros (-whole).toNat ++ text

/-- Digits with an exponent where the number is below a hundred-thousandth or has more than sixteen
whole digits; a whole number ends in `.0`. -/
def compact (d : Decimal) : String :=
  let text := toString d.digits
  let whole := (text.length : Int) + d.exponent
  if 0 ≤ d.exponent && whole ≤ 16 then text ++ zeros d.exponent.toNat ++ ".0"
  else if 0 < whole && whole ≤ 16 then pointed text whole.toNat
  else if -5 < whole && whole ≤ 0 then "0." ++ zeros (-whole).toNat ++ text
  else
    let mantissa := if text.length = 1 then text else pointed text 1
    mantissa ++ "e" ++ toString (whole - 1)

def text (layout : Decimal → String) (zero : String) (bits : UInt64) : String :=
  let negative := 2 ^ 63 ≤ bits.toNat
  let sign := if negative then "-" else ""
  match binary? bits with
  | some b => sign ++ layout (shortest b)
  | none =>
    if bits.toNat % 2 ^ 63 = 0 then sign ++ zero
    else if bits.toNat % 2 ^ 52 = 0 then sign ++ "inf"
    else "NaN"

def plain (bits : UInt64) : String := text positional "0" bits

def short (bits : UInt64) : String := text compact "0.0" bits

end Relay.Text.Float
