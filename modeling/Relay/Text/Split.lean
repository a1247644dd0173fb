import Relay.Power

namespace Relay.Text

def splitAtFirst? (separator : List Char) : List Char → Option (List Char × List Char)
  | [] => if separator.isEmpty then some ([], []) else none
  | c :: rest =>
    if separator.isPrefixOf (c :: rest) then some ([], (c :: rest).drop separator.length)
    else (splitAtFirst? separator rest).map fun (before, after) => (c :: before, after)

def splitAtLast? (separator : Char) (cs : List Char) : Option (List Char × List Char) :=
  (splitAtFirst? [separator] cs.reverse).map fun (after, before) => (before.reverse, after.reverse)

/-- The parts of a text between the places where a character stands. -/
def splitAll (separator : Char) : List Char → List (List Char)
  | [] => [[]]
  | c :: rest =>
    if c == separator then [] :: splitAll separator rest
    else
      match splitAll separator rest with
      | part :: parts => (c :: part) :: parts
      | [] => [[c]]

/-- The number that decimal digits spell; none of anything else, or of no digit. -/
def natOfDigits? (cs : List Char) : Option Nat :=
  if cs.isEmpty || !cs.all Char.isDigit then none
  else some (cs.foldl (fun n c => n * 10 + (c.toNat - 48)) 0)

/-- A whole number below a limit, in decimal digits that may follow a plus sign. -/
def unsigned? (limit : Nat) (cs : List Char) : Option Nat :=
  let digits := match cs with
    | '+' :: rest => rest
    | _ => cs
  (natOfDigits? digits).filter (· < limit)

end Relay.Text
