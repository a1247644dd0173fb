import Relay.Data.Json
import Relay.Text.Float
import Relay.Text.Quoted
import Relay.Text.Worded

namespace Relay.Json

def found : Json → String
  | .null => "null"
  | .bool b => s!"boolean `{b}`"
  | .int i => s!"integer `{i}`"
  | .float bits => "floating point `" ++ Text.Float.short bits ++ "`"
  | .string s => "string " ++ Text.quoted s
  | .array _ => "sequence"
  | .object _ => "map"

/-- The complaint about a document that should have been something else. -/
def misfit (json : Json) (expected : String) : String :=
  "invalid type: " ++ json.found ++ ", expected " ++ expected

/-- The value of a vocabulary that a document stands for. -/
def word (α : Type) [Worded α] (json : Json) : Except String α :=
  let read (text : String) : Except String α :=
    match Worded.ofWord? text with
    | some a => .ok a
    | none => .error (Worded.unknown α text)
  match json with
  | .string text => read text
  | .object [(text, value)] => do
    let a ← read text
    match value with
    | .null => .ok a
    | other => .error (other.misfit "unit")
  | .object _ => .error "invalid value: map, expected map with a single key"
  | other => .error (other.misfit "string or map")

end Relay.Json
