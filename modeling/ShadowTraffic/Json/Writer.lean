import ShadowTraffic.Document
import ShadowTraffic.Number.Shortest
import ShadowTraffic.Text.Quoted

/-! # Writing JSON

A document on one line without blanks, or over several lines with two blanks a level. Quotes,
backslashes and controls are escaped and all other characters stand for themselves.
-/

namespace ShadowTraffic.Json

/-- One character of a written text: quotes, backslashes and controls are escaped. -/
def escapedChar (c : Char) : String :=
  match c with
  | '"' => "\\\""
  | '\\' => "\\\\"
  | '\n' => "\\n"
  | '\r' => "\\r"
  | '\t' => "\\t"
  | '\x08' => "\\b"
  | '\x0c' => "\\f"
  | c =>
    if c.toNat < 0x20 then
      let digits := Text.hex c.toNat
      "\\u" ++ String.ofList (List.replicate (4 - digits.length) '0') ++ digits
    else c.toString

def quoted (s : String) : String :=
  "\"" ++ String.join (s.toList.map escapedChar) ++ "\""

mutual

/-- A value on one line without blanks. -/
def compact : Document → String
  | .null => "null"
  | .bool b => if b then "true" else "false"
  | .int n => toString n
  | .real x => Number.floatText x
  | .text s => quoted s
  | .list items => "[" ++ Text.joined "," (compactItems items) ++ "]"
  | .table fields => "\x7b" ++ Text.joined "," (compactFields fields) ++ "\x7d"

/-- The items of a list, each on one line. -/
def compactItems : List Document → List String
  | [] => []
  | item :: rest => compact item :: compactItems rest

/-- The fields of an object, each on one line. -/
def compactFields : List (String × Document) → List String
  | [] => []
  | (name, value) :: rest => (quoted name ++ ":" ++ compact value) :: compactFields rest

end

/-- The blanks before a line at a depth of nesting. -/
def indentation (depth : Nat) : String :=
  String.ofList (List.replicate (2 * depth) ' ')

/-- Lines of a list or an object between its brackets; nothing stands between empty ones. -/
def block (opening closing : String) (depth : Nat) (lines : List String) : String :=
  if lines.isEmpty then opening ++ closing
  else
    opening ++ "\n" ++ Text.joined ",\n" (lines.map (indentation (depth + 1) ++ ·)) ++ "\n" ++
      indentation depth ++ closing

mutual

/-- A value over several lines, each level two blanks further in. -/
def pretty (depth : Nat) : Document → String
  | .list items => block "[" "]" depth (prettyItems (depth + 1) items)
  | .table fields => block "\x7b" "\x7d" depth (prettyFields (depth + 1) fields)
  | .null => "null"
  | .bool b => if b then "true" else "false"
  | .int n => toString n
  | .real x => Number.floatText x
  | .text s => quoted s

def prettyItems (depth : Nat) : List Document → List String
  | [] => []
  | item :: rest => pretty depth item :: prettyItems depth rest

def prettyFields (depth : Nat) : List (String × Document) → List String
  | [] => []
  | (name, value) :: rest =>
    (quoted name ++ ": " ++ pretty depth value) :: prettyFields depth rest

end

end ShadowTraffic.Json
