import Relay.Text.Split

namespace Relay.Settings

/-- A value of a setting. Numbers that were written with a minus sign are apart from the others. -/
inductive Value where
  | null
  | bool (value : Bool)
  | unsigned (value : Nat)
  | signed (value : Int)
  | float (bits : UInt64)
  | char (value : Char)
  | text (value : String)
  | list (items : List Value)
  | table (entries : List (String × Value))
  deriving Repr, Inhabited

/-- Entries in ascending order of their keys. -/
abbrev Table := List (String × Value)

namespace Table

def get? : Table → String → Option Value
  | [], _ => none
  | (k, v) :: rest, key => if key = k then some v else get? rest key

def put : Table → String → Value → Table
  | [], key, value => [(key, value)]
  | (k, v) :: rest, key, value =>
    if key = k then (key, value) :: rest
    else if key < k then (key, value) :: (k, v) :: rest
    else (k, v) :: put rest key value

theorem get?_put (t : Table) (key other : String) (value : Value) :
    (t.put key value).get? other = if other = key then some value else t.get? other := by
  induction t with
  | nil => simp [put, get?]
  | cons entry rest ih => grind [put, get?]

/-- The table of some entries; of two with one key the later counts. -/
def ofEntries (entries : List (String × Value)) : Table :=
  entries.foldl (fun t (key, value) => t.put key value) []

end Table

/-- How two lists at one place are merged: the later counts, or it is appended to the earlier. -/
inductive ListMerge where
  | replace
  | append
  deriving DecidableEq

mutual

/-- A value with a later one merged into it. -/
def Value.merge (how : ListMerge) (old : Value) : Value → Value
  | .table entries =>
    match old with
    | .table older => .table (mergeEntries how older entries)
    | _ => .table entries
  | .list items =>
    match old, how with
    | .list older, .append => .list (older ++ items)
    | _, _ => .list items
  | new => new

def mergeEntries (how : ListMerge) (old : List (String × Value)) :
    List (String × Value) → List (String × Value)
  | [] => old
  | entry :: rest => mergeEntries how (mergeEntry how old entry) rest

def mergeEntry (how : ListMerge) (old : List (String × Value)) :
    String × Value → List (String × Value)
  | (key, value) =>
    Table.put old key (match Table.get? old key with
      | some older => older.merge how value
      | none => value)

end

def Table.merge (how : ListMerge) (old new : Table) : Table := mergeEntries how old new

def parts (key : String) : List String := (Text.splitAll '.' key.toList).map String.ofList

/-- What a path leads to through nested tables; an empty part ends the path. -/
def Value.find? : List String → Value → Option Value
  | [], v => some v
  | part :: rest, v =>
    if part.isEmpty then some v
    else
      match v with
      | .table t => (Table.get? t part).bind (find? rest)
      | _ => none

/-- A value inside nested tables with the given keys. -/
def Value.nested (path : List String) (v : Value) : Value :=
  path.foldr (fun key v => .table [(key, v)]) v

end Relay.Settings
