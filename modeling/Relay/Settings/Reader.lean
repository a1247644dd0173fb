import Relay.Data.Json
import Relay.Net.Ipv4
import Relay.Settings.Value
import Relay.Text.Decimal
import Relay.Text.Float
import Relay.Text.Quoted
import Relay.Text.Worded

namespace Relay.Settings

/-- What a value misses: it is of another kind than expected, it is of the right kind but out of
bounds, it is no word of a vocabulary, or it is a table without a field that must be there. -/
inductive Misfit.Cause where
  | wrongKind (found expected : String)
  | wrongValue (found expected : String)
  | unknownWord (found expected : String)
  | missing (field : String)
  | other (text : String)
  deriving DecidableEq, Repr

def Misfit.Cause.message : Misfit.Cause → String
  | .wrongKind found expected => "invalid type: found " ++ found ++ ", expected " ++ expected
  | .wrongValue found expected => "invalid value " ++ found ++ ", expected " ++ expected
  | .unknownWord found expected =>
    "unknown variant: found `" ++ found ++ "`, expected `" ++ expected ++ "`"
  | .missing field => "missing field `" ++ field ++ "`"
  | .other text => text

/-- What a value misses, and the path to the part of it that does. -/
structure Misfit where
  cause : Misfit.Cause
  path : List String
  deriving DecidableEq, Repr

namespace Misfit

def ofCause (cause : Cause) : Misfit := ⟨cause, []⟩

def within (part : String) (m : Misfit) : Misfit := { m with path := part :: m.path }

/-- A misfit of what a key leads to; the parts of the key come after the path inside it. -/
def atKey (key : String) (m : Misfit) : Misfit :=
  { m with path := m.path ++ (parts key).filter (!·.isEmpty) }

end Misfit

namespace Value

def found : Value → String
  | .null => "unit"
  | .bool b => s!"bool {b}"
  | .unsigned n => if n < 2 ^ 64 then s!"unsigned int `{n}`" else s!"integer `{n}` as u128"
  | .signed i => if -2 ^ 63 ≤ i then s!"signed int `{i}`" else s!"integer `{i}` as i128"
  | .float bits => "float `" ++ Text.Float.plain bits ++ "`"
  | .char c => "string " ++ Text.quoted (String.singleton c)
  | .text s => "string " ++ Text.quoted s
  | .list _ => "sequence"
  | .table _ => "map"

def wrongKind (v : Value) (expected : String) : Misfit := .ofCause (.wrongKind v.found expected)

def wrongValue (v : Value) (expected : String) : Misfit := .ofCause (.wrongValue v.found expected)

/-- A number of 64 bits, whether it was written with a sign or not. -/
def int? : Value → Option Int
  | .unsigned n => if n < 2 ^ 64 then some n else none
  | .signed i => if -2 ^ 63 ≤ i then some i else none
  | _ => none

end Value

/-- A way to read values as those of a type. -/
abbrev Reader (α : Type) := Value → Except Misfit α

namespace Reader

def bool : Reader Bool
  | .bool b => .ok b
  | v => .error (v.wrongKind "a boolean")

def string : Reader String
  | .text s => .ok s
  | .char c => .ok (String.singleton c)
  | v => .error (v.wrongKind "a string")

def char : Reader Char
  | .char c => .ok c
  | .text s =>
    match s.toList with
    | [c] => .ok c
    | _ => .error ((Value.text s).wrongValue "a character")
  | v => .error (v.wrongKind "a character")

/-- A whole number within bounds; `name` stands for the type in messages. -/
def integer (name : String) (low high : Int) : Reader Int := fun v =>
  match v.int? with
  | some i => if low ≤ i && i ≤ high then .ok i else .error (v.wrongValue name)
  | none => .error (v.wrongKind name)

/-- A whole number of some bits that is not negative. -/
def natural (name : String) (bits : Nat) : Reader Nat := fun v =>
  (integer name 0 (2 ^ bits - 1) v).map Int.toNat

def size : Reader Nat := natural "usize" 64

/-- The bits of a floating-point number; a whole number of 64 bits counts as the nearest one. -/
def float : Reader UInt64
  | .float bits => .ok bits
  | v =>
    match v.int? with
    | some i => .ok (Text.Decimal.ofInt i)
    | none => .error (v.wrongKind "f64")

def option {α : Type} (read : Reader α) : Reader (Option α)
  | .null => .ok none
  | v => (read v).map some

/-- Reads items in order, up to the first that does not fit; `i` is the place of the first. -/
def items {α : Type} (read : Reader α) (i : Nat) : List Value → Except Misfit (List α)
  | [] => .ok []
  | v :: vs => do
    let a ← (read v).mapError (·.within (toString i))
    return a :: (← items read (i + 1) vs)

def list {α : Type} (read : Reader α) : Reader (List α)
  | .list vs => items read 0 vs
  | v => .error (v.wrongKind "a sequence")

/-- Reads entries in order, up to the first whose value does not fit. -/
def entries {α : Type} (read : Reader α) : Table → Except Misfit (List (String × α))
  | [] => .ok []
  | (key, v) :: rest => do
    let a ← (read v).mapError (·.within key)
    return (key, a) :: (← entries read rest)

def table {α : Type} (read : Reader α) : Reader (List (String × α))
  | .table t => entries read t
  | v => .error (v.wrongKind "a map")

/-- A word of a vocabulary, or a table whose first key is the word and whose value there is null;
`name` stands for the type in messages. -/
def word (α : Type) [Worded α] (name : String) : Reader α :=
  let read (text : String) : Except Misfit α :=
    match Worded.ofWord? text with
    | some a => .ok a
    | none => .error (.ofCause (.unknownWord text (Worded.listing α)))
  fun
  | .text s => read s
  | .table [] => .error ((Value.table []).wrongKind "enum")
  | .table ((key, v) :: _) => do
    let a ← (read key).mapError (·.within key)
    match v with
    | .null => return a
    | v => .error ((v.wrongKind "unit").within key)
  | v => .error (v.wrongKind ("enum " ++ name))

def ipv4 : Reader Ipv4
  | .text s => (Ipv4.parse? s).elim (.error (.ofCause (.other "invalid IPv4 address syntax"))) .ok
  | .char _ => .error (.ofCause (.other "invalid IPv4 address syntax"))
  | v => .error (v.wrongKind "IPv4 address")

mutual

/-- Any value, as a JSON document; of numbers, it holds those of 64 bits, and null in place of a
floating-point one that is not finite. -/
def document : Reader Json
  | .null => .ok .null
  | .bool b => .ok (.bool b)
  | .unsigned n =>
    if n < 2 ^ 64 then .ok (.int n) else .error (.ofCause (.other "JSON number out of range"))
  | .signed i =>
    if -2 ^ 63 ≤ i then .ok (.int i) else .error (.ofCause (.other "JSON number out of range"))
  | .float bits => .ok (if (Text.Float.isFinite bits) then .float bits else .null)
  | .char c => .ok (.string (String.singleton c))
  | .text s => .ok (.string s)
  | .list vs => (documentItems 0 vs).map .array
  | .table t => (documentEntries t).map .object

def documentItems (i : Nat) : List Value → Except Misfit (List Json)
  | [] => .ok []
  | v :: vs => do
    let j ← (document v).mapError (·.within (toString i))
    return j :: (← documentItems (i + 1) vs)

def documentEntries : List (String × Value) → Except Misfit (List (String × Json))
  | [] => .ok []
  | e :: es => do
    let m ← documentEntry e
    return m :: (← documentEntries es)

def documentEntry : String × Value → Except Misfit (String × Json)
  | (key, v) => do
    let j ← (document v).mapError (·.within key)
    return (key, j)

end

def optionalField {α : Type} (name : String) (absent : α) (read : Reader α) (t : Table) :
    Except Misfit α :=
  match t.get? name with
  | some v => (read v).mapError (·.within name)
  | none => .ok absent

def requiredField {α : Type} (name : String) (read : Reader α) (t : Table) : Except Misfit α :=
  match t.get? name with
  | some v => (read v).mapError (·.within name)
  | none => .error (.ofCause (.missing name))

end Reader

end Relay.Settings
