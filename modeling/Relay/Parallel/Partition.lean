namespace Relay

/-- The items from `start` up to, and without, `stop`. -/
structure Span where
  start : UInt64
  stop : UInt64
  deriving DecidableEq, Repr

/-- The piece of `len` items that belongs to worker `id` of `workers`: pieces differ in length by at
most one, and the longer ones come first. -/
def partition (len id workers : UInt64) : Span :=
  if workers = 0 || workers ≤ id then ⟨len, len⟩
  else
    let base := len / workers
    let extra := len % workers
    let start := id * base + min id extra
    ⟨start, start + base + (if id < extra then 1 else 0)⟩

def Span.slice {α : Type} (s : Span) (items : List α) : List α :=
  (items.drop s.start.toNat).take (s.stop.toNat - s.start.toNat)

end Relay
