namespace Relay

/-- For each child a row, with a mark at each child that it was said to depend on, and whether any
dependency was added. Until then each child depends on the one before it. -/
structure Dependencies where
  rows : List (List Bool)
  isExplicit : Bool
  deriving DecidableEq, Repr, Inhabited

namespace Dependencies

inductive Refusal where
  | outOfBounds
  | cycle
  deriving DecidableEq, Repr

def empty : Dependencies := ⟨[], false⟩

def size (d : Dependencies) : Nat := d.rows.length

/-- Adds a child, which depends on none and on which none depends. -/
def grow (d : Dependencies) : Dependencies :=
  { d with rows := d.rows.map (· ++ [false]) ++ [List.replicate (d.size + 1) false] }

def hasEdge (d : Dependencies) (child on : Nat) : Bool :=
  (d.rows[child]?.bind fun row => row[on]?).getD false

def mark (d : Dependencies) (child on : Nat) : Dependencies :=
  ⟨d.rows.modify child fun row => row.set on true, true⟩

def dependsOn (d : Dependencies) (child on : Nat) : Bool :=
  if d.isExplicit then d.hasEdge child on else child == on + 1

/-- Visits what `next` leads to from the nodes on a stack, depth first, each node once, in the order
of first visits; `fuel` bounds the nodes still to visit. -/
def explore (next : Nat → List Nat) : (fuel : Nat) → (stack visited : List Nat) → List Nat
  | 0, _, visited => visited
  | _ + 1, [], visited => visited
  | fuel + 1, node :: stack, visited =>
    if visited.contains node then explore next fuel stack visited
    else explore next fuel (next node ++ stack) (visited ++ [node])

/-- Enough fuel for a search in a graph of this size: every edge is pushed at most once. -/
def fuel (d : Dependencies) : Nat := d.size * d.size + d.size + 2

/-- Whether `next` leads from the nodes on a stack to `goal`: all that a node leads to is put on the
stack, the last of it on top, unless the node was visited before. -/
def leadsTo (next : Nat → List Nat) (goal : Nat) : (fuel : Nat) → (stack visited : List Nat) → Bool
  | 0, _, _ => false
  | _ + 1, [], _ => false
  | fuel + 1, node :: stack, visited =>
    if node == goal then true
    else if visited.contains node then leadsTo next goal fuel stack visited
    else leadsTo next goal fuel ((next node).reverse ++ stack) (visited ++ [node])

/-- Whether added dependencies lead from `start` to `goal`. -/
def reaches (d : Dependencies) (start goal : Nat) : Bool :=
  let next node := (List.range d.size).filter (d.hasEdge node)
  leadsTo next goal d.fuel [start] []

def add (d : Dependencies) (child on : Nat) : Except Refusal Unit × Dependencies :=
  if d.size ≤ child || d.size ≤ on then (.error .outOfBounds, d)
  else if child == on || d.reaches on child then (.error .cycle, d)
  else (.ok (), d.mark child on)

/-- A child, and those that depend on it, directly or not, depth first and in ascending order. -/
def cascade (d : Dependencies) (failed : Nat) : List Nat :=
  if failed < d.size then
    let next node := (List.range d.size).filter (d.dependsOn · node)
    explore next d.fuel [failed] []
  else []

end Dependencies

end Relay
