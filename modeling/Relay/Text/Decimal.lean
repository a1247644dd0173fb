import Relay.Text.Split

namespace Relay.Text.Decimal

def infinity : UInt64 := 0x7ff0000000000000

/-- The quotient of two numbers, rounded to the nearest, halves to the even neighbour. -/
def roundDiv (num den : Nat) : Nat :=
  let q := num / den
  let twice := 2 * (num % den)
  if den < twice ∨ (twice = den ∧ q % 2 = 1) then q + 1 else q

/-- The greatest `k` with `2 ^ k ≤ num / den`, for positive numbers. -/
def log2Div (num den : Nat) : Int :=
  let k := (num.log2 : Int) - den.log2
  if den * 2 ^ k.toNat ≤ num * 2 ^ (-k).toNat then k else k - 1

/-- The bits of the floating-point number nearest to a fraction. -/
def nearest (num den : Nat) : UInt64 :=
  if num = 0 then 0
  else
    let k := max (log2Div num den - 52) (-1074)
    let m := roundDiv (num * 2 ^ (-k).toNat) (den * 2 ^ k.toNat)
    let bits := if m < 2 ^ 52 then m else (k + 1075).toNat * 2 ^ 52 + (m - 2 ^ 52)
    if infinity.toNat ≤ bits then infinity else UInt64.ofNat bits

/-- The bits of the floating-point number nearest to `digits * 10 ^ exponent`; beyond four hundred
places it is infinite or zero in any case. -/
def scaled (digits : Nat) (exponent : Int) : UInt64 :=
  let places := exponent + (Nat.toDigits 10 digits).length
  if digits = 0 ∨ places < -400 then 0
  else if 400 < places then infinity
  else nearest (digits * 10 ^ exponent.toNat) (10 ^ (-exponent).toNat)

/-- The bits of a number with the sign bit set. -/
def negate (bits : UInt64) : UInt64 := bits ^^^ 0x8000000000000000

/-- The bits of the floating-point number nearest to a whole number. -/
def ofInt (i : Int) : UInt64 :=
  if i < 0 then negate (nearest i.natAbs 1) else nearest i.natAbs 1

def exponent? : List Char → Option Int
  | [] => some 0
  | c :: rest =>
    if c == 'e' || c == 'E' then
      match rest with
      | '-' :: ds => (natOfDigits? ds).map fun n => -(n : Int)
      | '+' :: ds => (natOfDigits? ds).map Int.ofNat
      | ds => (natOfDigits? ds).map Int.ofNat
    else none

/-- The number that an unsigned decimal text spells: digits, perhaps with a point before, among or
after them, and perhaps an exponent. -/
def unsigned? (cs : List Char) : Option UInt64 := do
  let (whole, rest) := cs.span Char.isDigit
  let (fraction, rest) := match rest with
    | '.' :: rest => rest.span Char.isDigit
    | rest => ([], rest)
  let digits ← natOfDigits? (whole ++ fraction)
  let exponent ← exponent? rest
  return scaled digits (exponent - fraction.length)

/-- The number that a decimal text spells, which a sign may precede. -/
def ofText? : List Char → Option UInt64
  | '-' :: cs => (unsigned? cs).map negate
  | '+' :: cs => unsigned? cs
  | cs => unsigned? cs

example : ofText? "1.5".toList = some 0x3ff8000000000000 := by decide +kernel
example : ofText? "-.1e0".toList = some 0xbfb999999999999a := by decide +kernel
example : ofText? "4.9406564584124654e-324".toList = some 1 := by decide +kernel
example : ofText? "1.7976931348623159e308".toList = some infinity := by decide +kernel

end Relay.Text.Decimal
