import Relay.Data.Json
import Relay.Data.Yaml
import Relay.Settings.Value
import Relay.Text.Decimal

namespace Relay.Settings

namespace Value

mutual

def ofJson : Json → Value
  | .null => .null
  | .bool b => .bool b
  | .int i => if i < 0 then .signed i else .unsigned i.toNat
  | .float bits => .float bits
  | .string s => .text s
  | .array items => .list (ofItems items)
  | .object members => .table (Table.ofEntries (ofMembers members))

def ofItems : List Json → List Value
  | [] => []
  | item :: rest => ofJson item :: ofItems rest

def ofMembers : List (String × Json) → List (String × Value)
  | [] => []
  | member :: rest => ofMember member :: ofMembers rest

def ofMember : String × Json → String × Value
  | (key, json) => (key, ofJson json)

end

end Value

/-- The number that digits of a base spell; none of no digit, or of one that the base lacks. -/
def natOfBase? (base : Nat) (ds : List Char) : Option Nat :=
  if ds.isEmpty then none
  else ds.foldlM (fun n d => ((Text.hexDigit? d).filter (· < base)).map (n * base + ·)) 0

/-- Whether a text is a number with a zero in front of its digits, which makes it no number. -/
def hasLeadingZero (cs : List Char) : Bool :=
  let ds := match cs with
    | '-' :: rest => rest
    | '+' :: rest => rest
    | _ => cs
  match ds with
  | '0' :: _ :: _ => ds.all Char.isDigit
  | _ => false

/-- The magnitude that unsigned text of a whole number spells: hexadecimal after `0x`, octal after `0o`,
binary after `0b`, and otherwise decimal. -/
def magnitude? (limit : Nat) (cs : List Char) : Option Nat :=
  let based := match cs with
    | '0' :: 'x' :: ds => natOfBase? 16 ds
    | '0' :: 'o' :: ds => natOfBase? 8 ds
    | '0' :: 'b' :: ds => natOfBase? 2 ds
    | _ => none
  match based.filter (· < limit) with
  | some n => some n
  | none => if hasLeadingZero cs then none else (Text.natOfDigits? cs).filter (· < limit)

/-- The whole number that a text spells, of up to 128 bits. -/
def wholeNumber? (cs : List Char) : Option Value :=
  match cs with
  | '-' :: ds => (magnitude? (2 ^ 127 + 1) ds).map fun n => .signed (-n)
  | '+' :: ds => (magnitude? (2 ^ 128) ds).map .unsigned
  | ds => (magnitude? (2 ^ 128) ds).map .unsigned

/-- The floating-point number that a text spells; a decimal that is too large is none. -/
def floatingPoint? (text : String) : Option UInt64 :=
  if [".inf", ".Inf", ".INF", "+.inf", "+.Inf", "+.INF"].contains text then some Text.Decimal.infinity
  else if ["-.inf", "-.Inf", "-.INF"].contains text then
    some (Text.Decimal.negate Text.Decimal.infinity)
  else if [".nan", ".NaN", ".NAN"].contains text then some 0x7ff8000000000000
  else (Text.Decimal.ofText? text.toList).filter fun bits =>
    bits != Text.Decimal.infinity && bits != Text.Decimal.negate Text.Decimal.infinity

def isNothing (text : String) : Bool := ["null", "Null", "NULL", "~"].contains text

def truth? (text : String) : Option Bool :=
  if ["true", "True", "TRUE"].contains text then some true
  else if ["false", "False", "FALSE"].contains text then some false
  else none

def Value.ofPlain (spelling : String) : Value :=
  if spelling.isEmpty || isNothing spelling then .null
  else
    match truth? spelling, wholeNumber? spelling.toList with
    | some b, _ => .bool b
    | none, some v => v
    | none, none =>
      let bits := if hasLeadingZero spelling.toList then none else floatingPoint? spelling
      match bits with
      | some bits => .float bits
      | none => .text spelling

/-- Whether a tag is the own one of an application, which no setting has. -/
def isOwnTag (tag : String) : Bool := tag.toList.head? == some '!'

/-- The value of a scalar. Most tags make it a text; it must be what some tags say. -/
def Value.ofScalar? (tag : Option String) (isPlain : Bool) (spelling : String) : Option Value :=
  match tag with
  | none => some (if isPlain then ofPlain spelling else .text spelling)
  | some "tag:yaml.org,2002:bool" => (truth? spelling).map .bool
  | some "tag:yaml.org,2002:int" => wholeNumber? spelling.toList
  | some "tag:yaml.org,2002:float" => (floatingPoint? spelling).map .float
  | some "tag:yaml.org,2002:null" => if isNothing spelling then some .null else none
  | some tag => if isOwnTag tag then none else some (.text spelling)

/-- The collections of a YAML document that may be nested. -/
def nestingLimit : Nat := 128

def keyText? : Yaml → Option String
  | .scalar _ _ text => some text
  | _ => none

/-- The value that a part of a YAML document spells, with so many levels of collections left. -/
def Value.ofYaml? : (levels : Nat) → Yaml → Option Value
  | _, .scalar tag isPlain spelling => ofScalar? tag isPlain spelling
  | 0, _ | _, .anchored .. | _, .alias _ => none
  | levels + 1, .sequence tag items =>
    if tag.any isOwnTag then none else (items.mapM (ofYaml? levels)).map .list
  | levels + 1, .mapping tag entries =>
    if tag.any isOwnTag then none else
    let entry (e : Yaml × Yaml) : Option (String × Value) := do
      let key ← keyText? e.1
      let value ← ofYaml? levels e.2
      return (key, value)
    (entries.mapM entry).map fun es => .table (Table.ofEntries es)

inductive Format where
  | yaml
  | json
  deriving DecidableEq, Repr

/-- The table that the text of a file holds; an empty YAML document is an empty table. -/
def Table.ofText? (format : Format) (text : String) : Option Table :=
  match format with
  | .json =>
    match (Json.parse? text).map Value.ofJson with
    | some (.table t) => some t
    | _ => none
  | .yaml =>
    match Yaml.parse? text with
    | some (.scalar _ true "") => some []
    | some document =>
      match Value.ofYaml? nestingLimit document.untagged with
      | some (.table t) => some t
      | _ => none
    | none => none

end Relay.Settings
