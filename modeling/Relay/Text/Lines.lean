import Relay.Text.Utf8

namespace Relay.Text

def rawLines : List UInt8 → List (List UInt8)
  | [] => []
  | b :: rest =>
    if b == 10 then [b] :: rawLines rest
    else
      match rawLines rest with
      | line :: lines => (b :: line) :: lines
      | [] => [[b]]

/-- Cutting an input into lines loses nothing of it. -/
theorem flatten_rawLines (input : List UInt8) : (rawLines input).flatten = input := by
  fun_induction rawLines input with
  | case1 => rfl
  | case2 b rest _ ih => simp [ih]
  | case3 b rest _ line lines h ih => simp_all
  | case4 b rest _ h ih => simp_all

def withoutEnd (line : List UInt8) : List UInt8 :=
  match line.reverse with
  | 10 :: 13 :: front | 10 :: front => front.reverse
  | _ => line

/-- The lines of an input, none in place of those that are not text. -/
def lines (input : List UInt8) : List (Option String) :=
  (rawLines input).map fun line => (Utf8.decode (withoutEnd line)).toOption

end Relay.Text
