import Courier.Text.Classes

/-!
# Quoted text

Error details show foreign text between double quotes. Quotes, backslashes and the common
controls are written with a backslash; every other concealed character shows its code point.
-/

namespace Courier.Text

set_option autoImplicit false

def hexDigits (n : Nat) : String := String.ofList (Nat.toDigits 16 n)

def escapeChar (c : Char) : String :=
  match c with
  | '\x00' => "\\0"
  | '\t' => "\\t"
  | '\n' => "\\n"
  | '\r' => "\\r"
  | '"' => "\\\""
  | '\\' => "\\\\"
  | c => if concealed.contains c then "\\u\x7b" ++ hexDigits c.toNat ++ "\x7d" else c.toString

def quote (s : String) : String :=
  "\"" ++ String.join (s.toList.map escapeChar) ++ "\""

end Courier.Text
