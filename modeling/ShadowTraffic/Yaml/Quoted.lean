import ShadowTraffic.Number.Reading
import ShadowTraffic.Yaml.Cursor

/-! # Quoted scalars of YAML

Between single quotes a quote is written twice; between double ones a backslash begins an escape,
and in front of a line end it takes the line end away. Lines are joined by spaces, and what stands
on them is indented as far as the collection around the scalar asks for.
-/

namespace ShadowTraffic.Yaml.Quoted

/-! ## Escapes -/

/-- The character behind a backslash that a single letter stands for. -/
def escapedChar? : Char → Option Char
  | '0' => some '\x00'
  | 'a' => some '\x07'
  | 'b' => some '\x08'
  | 't' | '\t' => some '\t'
  | 'n' => some '\n'
  | 'v' => some '\x0b'
  | 'f' => some '\x0c'
  | 'r' => some '\r'
  | 'e' => some '\x1b'
  | ' ' => some ' '
  | '"' => some '"'
  | '/' => some '/'
  | '\\' => some '\\'
  | 'N' => some '\u0085'
  | '_' => some '\u00a0'
  | 'L' => some '\u2028'
  | 'P' => some '\u2029'
  | _ => none

/-- How many digits of a code point stand behind a letter. -/
def codePointDigits? : Char → Option Nat
  | 'x' => some 2
  | 'u' => some 4
  | 'U' => some 8
  | _ => none

/-- What an escape stands for, and how many characters it has behind its backslash. -/
def escape? : List Char → Option (Char × Nat)
  | [] => none
  | c :: rest =>
    match codePointDigits? c with
    | none => (escapedChar? c).map (·, 1)
    | some count => do
      if rest.length < count then none
      else
        let n ← Number.natural? 16 (rest.take count)
        if n.isValidChar then some (Char.ofNat n, 1 + count) else none

/-! ## Scalars -/

/-- Reads on to a blank, a line end or the closing quote, or past an escaped line end. What was
read stands in reverse. -/
def word? (quote : Char) : (fuel : Nat) → List Char → Cursor → Option (List Char × Cursor)
  | 0, _, _ => none
  | fuel + 1, read, c =>
    match c.rest with
    | [] => none
    | x :: rest =>
      if isSpacing x then some (read, c)
      else if x == quote then
        if x == '\'' && rest.head? == some x then word? quote fuel (x :: read) (c.past 2)
        else some (read, c)
      else if x == '\\' && quote == '"' then
        if rest.head? == some '\n' then some (read, c.past 2)
        else do
          let (y, length) ← escape? rest
          word? quote fuel (y :: read) (c.past (1 + length))
      else word? quote fuel (x :: read) c.next

/-- Reads on past the closing quote, given the first column that words may stand in. -/
def rest? (quote : Char) (column : Nat) : (fuel : Nat) → List Char → Cursor →
    Option (String × Cursor)
  | 0, _, _ => none
  | fuel + 1, read, c =>
    if c.atMark || c.column < column then none
    else do
      let (read, c) ← word? quote (c.rest.length + 1) read c
      if c.rest.head? == some quote then pure (String.ofList read.reverse, c.next)
      else
        let (gap, c) ← Gap.read? (fun _ => none) column (c.rest.length + 1) {} c
        rest? quote column fuel ((gap.text c.leading).reverse ++ read) c

/-- Whether a quoted scalar that began on a line may end here: its line ends, or a colon follows,
or in a flow collection a comma or a closing bracket. Outside of flow collections only a scalar on
one line is a key. -/
def mayEnd (inFlow : Bool) (line : Nat) (c : Cursor) : Bool :=
  c.endsLine ||
    match c.rest with
    | ':' :: _ => inFlow || c.line == line
    | x :: _ => inFlow && (x == ',' || x == ']' || x == '\x7d')
    | [] => true

def read? (inFlow : Bool) (column : Nat) (c : Cursor) : Option (String × Cursor) := do
  let quote ← c.rest.head?
  let (s, after) ← rest? quote column (c.rest.length + 1) [] c.next
  let after ← after.pastSpacing?
  if mayEnd inFlow c.line after then pure (s, after) else none

end ShadowTraffic.Yaml.Quoted
