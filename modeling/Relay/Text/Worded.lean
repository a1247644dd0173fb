namespace Relay

/-- A type whose values are written as words; `all` lists them in the order messages show them. -/
class Worded (α : Type) where
  all : List α
  word : α → String

namespace Worded

variable {α : Type} [Worded α]

def ofWord? (text : String) : Option α :=
  (all : List α).find? fun a => word a == text

def listing (α : Type) [Worded α] : String :=
  let marked := (all : List α).map fun a => "`" ++ word a ++ "`"
  match marked with
  | [only] => only
  | [first, second] => first ++ " or " ++ second
  | several => "one of " ++ ", ".intercalate several

/-- The words that would have been accepted, for messages. -/
def expected (α : Type) [Worded α] : String := "expected " ++ listing α

/-- The complaint about a word of no value. -/
def unknown (α : Type) [Worded α] (text : String) : String :=
  "unknown variant `" ++ text ++ "`, " ++ expected α

end Worded

/-- A word with its parts, which underscores separate, each begun with a capital and joined. -/
def camelCase (text : String) : String :=
  String.join ((text.splitOn "_").map String.capitalize)

end Relay
