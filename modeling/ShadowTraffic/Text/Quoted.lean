import ShadowTraffic.Text.Pieces
import ShadowTraffic.Text.Unquotable

/-! # Quoted text

The form in which a text stands inside a description of a value: between double quotes, with the
quote, the backslash and the usual control characters behind a backslash, and every other
character that would not show as itself given by its code point.
-/

namespace ShadowTraffic.Text

/-- The digits of a number in base sixteen, lower case, without leading zeros. -/
def hex (n : Nat) : String :=
  String.ofList (Nat.toDigits 16 n)

def quotedChar (c : Char) : String :=
  match c with
  | '\x00' => "\\0"
  | '\t' => "\\t"
  | '\r' => "\\r"
  | '\n' => "\\n"
  | '"' => "\\\""
  | '\\' => "\\\\"
  | c =>
    if unquotable.holds c then "\\u\x7b" ++ hex c.toNat ++ "\x7d" else c.toString

def quoted (s : String) : String :=
  "\"" ++ String.join (s.toList.map quotedChar) ++ "\""

def quotedList (items : List String) : String :=
  "[" ++ joined ", " (items.map quoted) ++ "]"

end ShadowTraffic.Text
