namespace Relay.Text

def hexDigit? (c : Char) : Option Nat :=
  if '0' ≤ c && c ≤ '9' then some (c.toNat - 48)
  else if 'a' ≤ c && c ≤ 'f' then some (c.toNat - 87)
  else if 'A' ≤ c && c ≤ 'F' then some (c.toNat - 55)
  else none

/-- The number that hexadecimal digits spell. -/
def natOfHex? (ds : List Char) : Option Nat :=
  ds.foldlM (fun n d => (hexDigit? d).map (n * 16 + ·)) 0

/-- The character with the code point that hexadecimal digits spell. -/
def charOfHex? (ds : List Char) : Option Char := do
  let n ← natOfHex? ds
  if n.isValidChar then some (Char.ofNat n) else none

end Relay.Text
