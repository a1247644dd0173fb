import Relay.Logging.Filter
import Relay.Settings

namespace Relay.Logging

structure Config where
  filter : Filter
  asJson : Bool
  deriving DecidableEq, Repr, Inhabited

namespace Config

/-- A yes or no in any form that a variable may have: a truth value, the number one or another, or a
text that says so. -/
def readSwitch : Settings.Reader Bool
  | .bool b => .ok b
  | .text s => .ok (["true", "1"].contains (String.ofList (Text.trim s.toList)).toLower)
  | v =>
    match v with
    | .unsigned _ | .signed _ =>
      match v.int? with
      | some i => if i < 2 ^ 63 then .ok (i == 1) else .error noSwitch
      | none => .error (v.wrongKind "any value")
    | _ => .error noSwitch
where
  noSwitch : Settings.Misfit :=
    .ofCause (.other "data did not match any variant of untagged enum PermissiveBool")

def readFilter : Settings.Reader Filter := fun v => do
  let text ← Settings.Reader.string v
  if text.isEmpty then throw (.ofCause (.other "Log level cannot be empty."))
  match Filter.ofText? text with
  | some filter => return filter
  | none => throw (.ofCause (.other "Failed to parse valid log level."))

/-- A configuration as a table spells it, where the level may be missing. -/
def read : Settings.Reader (Option Filter × Bool)
  | .table t => do
    let asJson ← Settings.Reader.optionalField "log_format_json" false readSwitch t
    let filter ← Settings.Reader.optionalField "log_level" none (.option readFilter) t
    return (filter, asJson)
  | v => .error (v.wrongKind "struct LoggingConfiguration")

def ofSettings (s : Settings) (level : Level) : Except Settings.Error Config := do
  let (filter, asJson) ← s.all read
  return ⟨filter.getD (.ofLevel level), asJson⟩

def debugText (c : Config) : String :=
  "LoggingConfiguration \x7b log_level: Some(LogLevel(" ++ c.filter.text ++ ")), log_format_json: " ++
    toString c.asJson ++ " \x7d"

end Config

end Relay.Logging
