import Relay.Settings.Document
import Relay.Settings.Environment
import Relay.Settings.Reader

namespace Relay

/-- The merged layers, or why one of them is no table; and the prefixes of variables that were read. -/
structure Settings where
  merged : Except Settings.Misfit Settings.Table
  prefixes : List String

namespace Settings

/-- Why settings cannot be loaded, or a value not be read. -/
inductive Error where
  | noPrefix
  | unreadableFile
  | missing (field : String) (alternatives : List String)
  | wrongKind (field expected found : String)
  | misfit (m : Misfit)
  deriving DecidableEq, Repr

namespace Error

def message : Error → String
  | .noPrefix => "An environment prefix such as `STRAND` is required."
  | .unreadableFile => "Failed to query configuration."
  | .missing field alternatives =>
    "No value for '" ++ field ++ "'. Try setting `" ++ "` or `".intercalate alternatives ++ "`."
  | .wrongKind field expected found =>
    "Value for '" ++ field ++ "' should be " ++ expected ++ ", found " ++ found ++ "."
  | .misfit m => "Failed to query configuration: " ++ m.cause.message

/-- A misfit as an error, with the path in the wording if the kind is wrong. -/
def ofMisfit (m : Misfit) : Error :=
  match m.cause with
  | .wrongKind found expected => .wrongKind (".".intercalate m.path) expected found
  | _ => .misfit m

end Error

def empty : Settings := ⟨.ok [], []⟩

/-- Settings with a further layer. A layer that is no table spoils them; of several such the last is
to blame. -/
def layered (s : Settings) (layer : Except Misfit Table) : Settings :=
  { s with
    merged := match layer, s.merged with
      | .error m, _ => .error m
      | .ok _, .error m => .error m
      | .ok new, .ok old => .ok (old.merge .append new) }

def withValue (s : Settings) (v : Value) : Settings :=
  s.layered (match v with
    | .table t => .ok t
    | v => .error (v.wrongKind "map"))

def withFile (s : Settings) (format : Format) (contents : Option String) : Except Error Settings :=
  match contents.bind (Table.ofText? format) with
  | some t => .ok (s.layered (.ok t))
  | none => .error .unreadableFile

def withOptionalFile (s : Settings) (format : Format) (contents : Option String) : Settings :=
  match s.withFile format contents with
  | .ok s => s
  | .error _ => s

def withEnvironment (s : Settings) (vars : List (String × String)) (given : String) :
    Except Error Settings :=
  if given.isEmpty then .error .noPrefix
  else
    let namePrefix := normalPrefix given
    let s := s.layered (.ok (Table.ofEnvironment namePrefix vars))
    .ok { s with
      prefixes := if s.prefixes.contains namePrefix then s.prefixes else s.prefixes ++ [namePrefix] }

/-- A key with underscores in place of its points. -/
def flatKey (key : String) : String :=
  String.ofList (key.toList.map fun c => if c == '.' then '_' else c)

/-- The names under which a missing field could be given. -/
def alternatives (s : Settings) (field : String) : List String :=
  field :: s.prefixes.map (· ++ Text.capitals (flatKey field))

/-- A misfit as an error; what is missing may be given under several names. -/
def explain (s : Settings) (m : Misfit) : Error :=
  match m.cause with
  | .missing field => .missing field (s.alternatives field)
  | _ => .ofMisfit m

def extract {α : Type} (s : Settings) (key : String) (read : Reader α) : Except Misfit α :=
  match s.merged with
  | .error m => .error m
  | .ok t =>
    match (Value.table t).find? (parts key) with
    | some v => (read v).mapError (·.atKey key)
    | none => .error (.ofCause (.missing key))

/-- The value at a key. What is missing, be it the value itself or a field inside it, is looked for
again under the flat key. -/
def get {α : Type} (s : Settings) (key : String) (read : Reader α) : Except Error α :=
  match s.extract key read with
  | .ok a => .ok a
  | .error m =>
    match m.cause with
    | .missing _ => (s.extract (flatKey key) read).mapError s.explain
    | _ => .error (.ofMisfit m)

/-- The value at a key, or none if it is missing. -/
def find {α : Type} (s : Settings) (key : String) (read : Reader α) : Except Error (Option α) :=
  match s.get key read with
  | .ok a => .ok (some a)
  | .error (.missing _ _) => .ok none
  | .error e => .error e

/-- The value at a key, or another if it is missing or does not fit. -/
def getD {α : Type} (s : Settings) (key : String) (read : Reader α) (absent : α) : α :=
  match s.get key read with
  | .ok a => a
  | .error _ => absent

def findD {α : Type} (s : Settings) (key : String) (read : Reader α) (absent : α) : Except Error α :=
  (s.find key read).map (·.getD absent)

def all {α : Type} (s : Settings) (read : Reader α) : Except Error α :=
  match s.merged with
  | .error m => .error (s.explain m)
  | .ok t => (read (.table t)).mapError s.explain

/-- All settings as one value; what is missing counts as any other misfit. -/
def whole {α : Type} (s : Settings) (read : Reader α) : Except Error α :=
  match s.merged with
  | .error m => .error (.ofMisfit m)
  | .ok t => (read (.table t)).mapError .ofMisfit

end Settings

end Relay
