import Relay.Settings.Value
import Relay.Text.Blank
import Relay.Text.Capital
import Relay.Text.Decimal
import Relay.Text.Hex

namespace Relay.Settings.Environment

def isBlank (c : Char) : Bool := c == ' ' || c == '\t' || c == '\n' || c == '\r' || c == '\x0c'

def isSeparator (c : Char) : Bool :=
  c == ',' || c == '[' || c == ']' || c == '\x7b' || c == '\x7d'

def isKeyChar (c : Char) : Bool := c.isAlphanum || c == '_' || c == '-'

def skipBlanks (cs : List Char) : List Char := cs.dropWhile isBlank

/-- The raw text of a quoted value after its opening quote, up to the closing one. -/
def quotedEnd? : List Char → Option (List Char × List Char)
  | [] => none
  | '"' :: rest => some ([], rest)
  | '\\' :: c :: rest => (quotedEnd? rest).map fun (raw, rest) => ('\\' :: c :: raw, rest)
  | c :: rest => (quotedEnd? rest).map fun (raw, rest) => (c :: raw, rest)

/-- What a raw text stands for; none at an escape of no meaning. -/
def unescape? : (fuel : Nat) → List Char → Option (List Char)
  | 0, _ => none
  | _ + 1, [] => some []
  | fuel + 1, '\\' :: c :: rest =>
    let numbered (n : Nat) : Option (List Char) := do
      if rest.length < n then none
      let value ← Text.charOfHex? (rest.take n)
      return value :: (← unescape? fuel (rest.drop n))
    let plain (value : Char) : Option (List Char) := (unescape? fuel rest).map (value :: ·)
    match c with
    | '"' => plain '"'
    | '\\' => plain '\\'
    | 'b' => plain '\x08'
    | 'f' => plain '\x0c'
    | 'n' => plain '\n'
    | 'r' => plain '\r'
    | 't' => plain '\t'
    | 'u' => numbered 4
    | 'U' => numbered 8
    | _ => none
  | fuel + 1, c :: rest => if c == '\\' then none else (unescape? fuel rest).map (c :: ·)

def quoted? (cs : List Char) : Option (String × List Char) := do
  let (raw, rest) ← quotedEnd? cs
  let value ← unescape? (raw.length + 1) raw
  return (String.ofList value, rest)

/-- The value of a word: a number with a point, a whole number of 64 bits, or a text. -/
def word (cs : List Char) : Value :=
  let whole : Value :=
    match Text.unsigned? (2 ^ 64) cs, cs with
    | some n, _ => .unsigned n
    | none, '-' :: ds =>
      match (Text.natOfDigits? ds).filter (· ≤ 2 ^ 63) with
      | some n => .signed (-n)
      | none => .text (String.ofList cs)
    | none, _ => .text (String.ofList cs)
  if cs.contains '.' then
    match Text.Decimal.ofText? cs with
    | some bits => .float bits
    | none => whole
  else whole

def entryKey? (cs : List Char) : Option (String × List Char) :=
  match cs with
  | '"' :: rest => quoted? rest
  | cs =>
    match cs.span isKeyChar with
    | ([], _) => none
    | (key, rest) => some (String.ofList key, rest)

mutual

/-- A value from the front of a text, with the blanks around it. -/
def value? : (fuel : Nat) → List Char → Option (Value × List Char)
  | 0, _ => none
  | fuel + 1, cs =>
    let cs := skipBlanks cs
    let result : Option (Value × List Char) :=
      if "true".toList.isPrefixOf cs then some (.bool true, cs.drop 4)
      else if "false".toList.isPrefixOf cs then some (.bool false, cs.drop 5)
      else
        match cs with
        | '\x7b' :: rest => (entries? fuel rest).map fun (es, rest) => (.table (Table.ofEntries es), rest)
        | '[' :: rest => (items? fuel rest).map fun (xs, rest) => (.list xs, rest)
        | '"' :: rest => (quoted? rest).map fun (s, rest) => (.text s, rest)
        | '\'' :: c :: '\'' :: rest => some (.char c, rest)
        | '\'' :: _ => none
        | cs =>
          let (spelled, rest) := cs.span (!isSeparator ·)
          some (word (Text.trim spelled), rest)
    result.map fun (v, rest) => (v, skipBlanks rest)

/-- The items of a list after its opening bracket; a comma may follow the last. -/
def items? : (fuel : Nat) → List Char → Option (List Value × List Char)
  | 0, _ => none
  | _ + 1, ']' :: rest => some ([], rest)
  | fuel + 1, cs => do
    let (v, rest) ← value? fuel cs
    match rest with
    | ',' :: rest =>
      let (vs, rest) ← items? fuel rest
      return (v :: vs, rest)
    | ']' :: rest => return ([v], rest)
    | _ => none

/-- The entries of a table after its opening brace; a comma may follow the last. -/
def entries? : (fuel : Nat) → List Char → Option (List (String × Value) × List Char)
  | 0, _ => none
  | _ + 1, '\x7d' :: rest => some ([], rest)
  | fuel + 1, cs => do
    let (key, rest) ← entryKey? (skipBlanks cs)
    match skipBlanks rest with
    | '=' :: rest =>
      let (v, rest) ← value? fuel (skipBlanks rest)
      match rest with
      | ',' :: rest =>
        let (es, rest) ← entries? fuel rest
        return ((key, v) :: es, rest)
      | '\x7d' :: rest => return ([(key, v)], rest)
      | _ => none
    | _ => none

end

/-- The value of a variable: what its text spells, or the text itself if it spells nothing. Every other
step takes a character, so fuel for twice as many suffices. -/
def valueOf (text : String) : Value :=
  match value? (2 * (text.length + 1)) text.toList with
  | some (v, []) => v
  | _ => .text text

/-- A text after a beginning that may differ from it in the case of letters from `a` to `z`. -/
def after? : List Char → List Char → Option (List Char)
  | [], cs => some cs
  | p :: ps, c :: cs => if p.toLower == c.toLower then after? ps cs else none
  | _ :: _, [] => none

def keyOf? (namePrefix name : String) : Option String := do
  let rest ← after? namePrefix.toList (Text.trim name.toList)
  let key := (String.ofList (Text.trim rest)).toLower
  if (parts key).any (·.isEmpty) then none else some key

end Environment

/-- A prefix in capitals that ends in an underscore. -/
def normalPrefix (given : String) : String :=
  if given.toList.getLast? == some '_' then Text.capitals given else Text.capitals given ++ "_"

def Table.ofEnvironment (namePrefix : String) (vars : List (String × String)) : Table :=
  vars.foldl (fun t (name, text) =>
    match Environment.keyOf? namePrefix name with
    | some key =>
      match (Environment.valueOf text).nested (parts key) with
      | .table new => t.merge .replace new
      | _ => t
    | none => t) []

end Relay.Settings
