import ShadowTraffic.Document
import ShadowTraffic.Number.Scaled

/-! # Reading JSON

The strict grammar: one value with blanks around it, no comments, no trailing commas, escapes of
surrogates only in pairs, and at most `depthLimit` lists and objects inside one another. A step of
the reader never gives back more characters than it was given, so the length of the text is fuel
enough.
-/

namespace ShadowTraffic.Json

def depthLimit : Nat := 127

/-- A reader takes characters and leaves the rest, or fails. -/
abbrev Reader (α : Type) := List Char → Option (α × List Char)

/-- Drops blanks: space, tab, line feed and carriage return. -/
def skipBlanks (cs : List Char) : List Char :=
  cs.dropWhile fun c => c == ' ' || c == '\t' || c == '\n' || c == '\r'

def codeUnit : Reader Nat
  | a :: b :: c :: d :: rest => do pure (← Number.natural? 16 [a, b, c, d], rest)
  | _ => none

/-- The character behind `\u`: one code unit, or a pair of surrogates. -/
def unicodeEscape : Reader Char := fun cs => do
  let (high, rest) ← codeUnit cs
  if 0xD800 ≤ high ∧ high < 0xDC00 then
    match rest with
    | '\\' :: 'u' :: rest =>
      let (low, rest) ← codeUnit rest
      if 0xDC00 ≤ low ∧ low < 0xE000 then
        pure (Char.ofNat (0x10000 + (high - 0xD800) * 0x400 + (low - 0xDC00)), rest)
      else none
    | _ => none
  else if 0xDC00 ≤ high ∧ high < 0xE000 then none
  else pure (Char.ofNat high, rest)

def escape : Reader Char
  | '"' :: rest => some ('"', rest)
  | '\\' :: rest => some ('\\', rest)
  | '/' :: rest => some ('/', rest)
  | 'b' :: rest => some ('\x08', rest)
  | 'f' :: rest => some ('\x0c', rest)
  | 'n' :: rest => some ('\n', rest)
  | 'r' :: rest => some ('\r', rest)
  | 't' :: rest => some ('\t', rest)
  | 'u' :: rest => unicodeEscape rest
  | _ => none

/-- The characters of a text up to its closing quote, collected in reverse. -/
def textRest : (fuel : Nat) → List Char → Reader String
  | 0, _, _ => none
  | fuel + 1, read, cs =>
    match cs with
    | '"' :: rest => some (String.ofList read.reverse, rest)
    | '\\' :: rest => do
      let (c, rest) ← escape rest
      textRest fuel (c :: read) rest
    | c :: rest => if c.toNat < 0x20 then none else textRest fuel (c :: read) rest
    | [] => none

/-- The digits of a whole part: a single zero, or no leading zero. -/
def wholeDigits : Reader (List Char)
  | '0' :: rest => some (['0'], rest)
  | cs =>
    let digits := cs.takeWhile Char.isDigit
    if digits.isEmpty then none else some (digits, cs.dropWhile Char.isDigit)

/-- A point and the digits behind it, if there is a point. -/
def fractionDigits : Reader (Option (List Char))
  | '.' :: rest =>
    let digits := rest.takeWhile Char.isDigit
    if digits.isEmpty then none else some (some digits, rest.dropWhile Char.isDigit)
  | cs => some (none, cs)

/-- An exponent, if there is one. -/
def exponentPart : Reader (Option Int)
  | c :: rest =>
    if c == 'e' || c == 'E' then
      let sign := match rest with
        | '+' :: _ | '-' :: _ => rest.take 1
        | _ => []
      let digits := (rest.drop sign.length).takeWhile Char.isDigit
      (Number.exponent? (sign ++ digits)).map fun e =>
        (some e, rest.drop (sign.length + digits.length))
    else some (none, c :: rest)
  | [] => some (none, [])

/-- A number. A literal that only says a whole number within sixty-four bits stays one, with a sign
if it is negative and without one else; a double that would be infinite is refused. -/
def number : Reader Document := fun cs => do
  let (negative, cs) := match cs with
    | '-' :: rest => (true, rest)
    | cs => (false, cs)
  let (whole, cs) ← wholeDigits cs
  let (fraction, cs) ← fractionDigits cs
  let (exponent, cs) ← exponentPart cs
  let n ← Number.natural? 10 whole
  let isWhole := fraction.isNone && exponent.isNone
  if isWhole && !negative && n < Nat.pow 2 64 then pure (.int n, cs)
  else if isWhole && negative && n != 0 && n ≤ Nat.pow 2 63 then pure (.int (-(n : Int)), cs)
  else
    let x ← (Number.Literal.mk whole (fraction.getD []) (exponent.getD 0)).scaled?
    pure (.real (if negative then -x else x), cs)

def keyword (word : String) (value : Document) : Reader Document := fun cs =>
  if word.toList.isPrefixOf cs then some (value, cs.drop word.length) else none

mutual

/-- A value; blanks before it are skipped. -/
def value : (fuel depth : Nat) → Reader Document
  | 0, _, _ => none
  | fuel + 1, depth, cs =>
    match skipBlanks cs with
    | '"' :: rest => (textRest (rest.length + 1) [] rest).map fun (s, rest) => (.text s, rest)
    | '[' :: rest =>
      match depth with
      | 0 => none
      | depth + 1 =>
        match skipBlanks rest with
        | ']' :: rest => some (.list [], rest)
        | _ => (items fuel depth [] rest).map fun (items, rest) => (.list items, rest)
    | '\x7b' :: rest =>
      match depth with
      | 0 => none
      | depth + 1 =>
        match skipBlanks rest with
        | '\x7d' :: rest => some (.table [], rest)
        | _ => (fields fuel depth [] rest).map fun (fields, rest) => (.table fields, rest)
    | 't' :: rest => keyword "rue" (.bool true) rest
    | 'f' :: rest => keyword "alse" (.bool false) rest
    | 'n' :: rest => keyword "ull" .null rest
    | cs => number cs

/-- The items of a list up to its closing bracket, collected in reverse. -/
def items : (fuel depth : Nat) → List Document → Reader (List Document)
  | 0, _, _, _ => none
  | fuel + 1, depth, read, cs => do
    let (item, rest) ← value fuel depth cs
    match skipBlanks rest with
    | ',' :: rest => items fuel depth (item :: read) rest
    | ']' :: rest => pure ((item :: read).reverse, rest)
    | _ => none

/-- The fields of an object up to its closing brace, collected in reverse. -/
def fields : (fuel depth : Nat) → List (String × Document) → Reader (List (String × Document))
  | 0, _, _, _ => none
  | fuel + 1, depth, read, cs =>
    match skipBlanks cs with
    | '"' :: rest => do
      let (name, rest) ← textRest (rest.length + 1) [] rest
      match skipBlanks rest with
      | ':' :: rest =>
        let (field, rest) ← value fuel depth rest
        match skipBlanks rest with
        | ',' :: rest => fields fuel depth ((name, field) :: read) rest
        | '\x7d' :: rest => pure (((name, field) :: read).reverse, rest)
        | _ => none
      | _ => none
    | _ => none

end

/-- The value a text holds, if the text is JSON. -/
def parse? (s : String) : Option Document := do
  let cs := s.toList
  let (read, rest) ← value (2 * cs.length + 2) depthLimit cs
  if (skipBlanks rest).isEmpty then pure read else none

end ShadowTraffic.Json
