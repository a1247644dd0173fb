namespace Relay.Text

/-- A set of characters, as the first and last code point of each of its runs, in ascending order. -/
abbrev CodeRanges := List (Nat × Nat)

def CodeRanges.contains (ranges : CodeRanges) (c : Char) : Bool :=
  ranges.any fun (first, last) => first ≤ c.toNat && c.toNat ≤ last

end Relay.Text
