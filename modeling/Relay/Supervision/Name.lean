import Relay.Text.Alphanumeric

namespace Relay.Name

variable (alnum : Char → Bool)

/-- Whether a segment can stand as it is: it starts and ends with an alphanumeric character, and
holds nothing else but underscores. -/
def isSegment (cs : List Char) : Bool :=
  cs.head?.any alnum && cs.getLast?.any alnum && cs.all fun c => alnum c || c == '_'

/-- Replaces each run of other characters by one underscore; `underscored` says that the run before
the text has already been replaced. -/
def collapse (underscored : Bool) : List Char → List Char
  | [] => []
  | c :: rest =>
    if alnum c then c :: collapse false rest
    else if underscored then collapse true rest
    else '_' :: collapse true rest

/-- Removes from both ends what is not alphanumeric. -/
def trim (cs : List Char) : List Char :=
  let ahead := cs.dropWhile fun c => !alnum c
  (ahead.reverse.dropWhile fun c => !alnum c).reverse

/-- A segment made of any text; none of a text without characters that count as alphanumeric. -/
def sanitize (cs : List Char) : Option (List Char) :=
  if isSegment alnum cs then some cs
  else
    match trim alnum (collapse alnum true cs) with
    | [] => none
    | segment => some segment

end Relay.Name

namespace Relay

structure Name where
  text : String
  deriving DecidableEq, Repr, Inhabited

namespace Name

def root? (text : String) : Option Name :=
  (sanitize Text.isAlphanumeric text.toList).map fun segment => ⟨String.ofList segment⟩

def scoped? (parent : Name) (text : String) : Option Name :=
  (sanitize Text.isAlphanumeric text.toList).map fun segment =>
    ⟨parent.text ++ "." ++ String.ofList segment⟩

def leafChars (cs : List Char) : List Char :=
  (cs.reverse.takeWhile (· ≠ '.')).reverse

def leaf (n : Name) : String := String.ofList (leafChars n.text.toList)

end Name

end Relay
