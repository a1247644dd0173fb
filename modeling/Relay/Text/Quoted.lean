import Relay.Text.Printable

namespace Relay.Text

/-- The hexadecimal digits of a number, in lower case, without leading zeros. -/
def hexDigits (n : Nat) : String := String.ofList (Nat.toDigits 16 n)

def escapeNumber (c : Char) : String := "\\u\x7b" ++ hexDigits c.toNat ++ "\x7d"

def escapeChar (c : Char) : String :=
  match c with
  | '\x00' => "\\0"
  | '\t' => "\\t"
  | '\r' => "\\r"
  | '\n' => "\\n"
  | '\\' => "\\\\"
  | '"' => "\\\""
  | c => if isPlain c then c.toString else escapeNumber c

def quoted (text : String) : String :=
  "\"" ++ String.join (text.toList.map escapeChar) ++ "\""

end Relay.Text
