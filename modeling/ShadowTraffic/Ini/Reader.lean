import ShadowTraffic.Document
import ShadowTraffic.Number.Reading
import ShadowTraffic.Text.Blank

/-! # Reading INI

Sections in brackets and `key = value` lines, with a colon as good as the sign. Every value is a
text; quotes around parts of it are taken away, and a backslash escapes. A key goes on until its
sign, over line ends too. Comments stand on lines of their own and begin them. A section that is
opened again starts anew.
-/

namespace ShadowTraffic.Ini

/-- A reader takes characters and leaves the rest, or fails. -/
abbrev Reader (α : Type) := List Char → Option (α × List Char)

/-- The character behind a backslash, or none at the end of a line, which is dropped. -/
def escape : Reader (Option Char)
  | [] => none
  | '0' :: rest => some (some '\x00', rest)
  | 'a' :: rest => some (some '\x07', rest)
  | 'b' :: rest => some (some '\x08', rest)
  | 't' :: rest => some (some '\t', rest)
  | 'r' :: rest => some (some '\r', rest)
  | 'n' :: rest => some (some '\n', rest)
  | '\n' :: rest => some (none, rest)
  | 'x' :: rest => do
    if rest.length < 4 then none
    else
      let n ← Number.natural? 16 (rest.take 4)
      if n.isValidChar then some (some (Char.ofNat n), rest.drop 4) else none
  | c :: rest => some (some c, rest)

/-- A text up to one of some characters, which is left; whether the end of everything will do is
a parameter. -/
def upTo (stops : Char → Bool) (mayEnd : Bool) : (fuel : Nat) → List Char → Reader String
  | 0, _, _ => none
  | fuel + 1, read, cs =>
    match cs with
    | [] => if mayEnd then some (String.ofList read.reverse, []) else none
    | c :: rest =>
      if stops c then some (String.ofList read.reverse, cs)
      else if c == '\\' then do
        let (c, rest) ← escape rest
        upTo stops mayEnd fuel (c.toList ++ read) rest
      else upTo stops mayEnd fuel (c :: read) rest

/-- A value up to the end of its line: quoted parts as they are, the last part without the blanks
around it. -/
def value : (fuel : Nat) → (first : Bool) → String → Reader String
  | 0, _, _, _ => none
  | fuel + 1, first, read, cs =>
    match cs with
    | [] => some (read, [])
    | c :: rest =>
      if c == '"' || c == '\'' then do
        let (s, rest) ← upTo (· == c) false (rest.length + 1) [] rest
        value fuel false (read ++ s) (rest.drop 1)
      else do
        let (s, rest) ← upTo (fun c => c == '\n' || c == '\r') true (cs.length + 1) [] cs
        let s := if first then Text.trim s
          else String.ofList (s.toList.reverse.dropWhile Text.isWhite).reverse
        pure (read ++ s, rest)

/-- Sections and the fields outside any, in reverse. -/
structure State where
  top : List (String × Document) := []
  sections : List (String × List (String × Document)) := []

/-- Sets a field of the section opened last. -/
def State.set (s : State) (name value : String) : State :=
  match s.sections with
  | [] => { s with top := (name, .text value) :: s.top }
  | (title, fields) :: rest =>
    { s with sections := (title, (name, .text value) :: fields) :: rest }

def State.document (s : State) : Document :=
  .table (s.top.reverse ++ s.sections.reverse.map fun e => (e.1, .table e.2.reverse))

def isBlank (c : Char) : Bool :=
  c == ' ' || c == '\t'

def isLineEnd (c : Char) : Bool :=
  c == '\n' || c == '\r'

/-- A key up to its sign, without the blanks around it. -/
def key : Reader String := fun cs =>
  (upTo (fun c => c == '=' || c == ':') false (cs.length + 1) [] cs).map fun (name, rest) =>
    (Text.trim name, rest)

/-- The text behind a place at the beginning of a line or inside one. Blanks in front of a line are
no more than a beginning: where no key follows them to the end of the text, the rest does not
count. -/
def read : (fuel : Nat) → (lineStart : Bool) → (name : String) → State → List Char → Option State
  | 0, _, _, _, _ => none
  | fuel + 1, lineStart, name, s, cs =>
    match cs with
    | [] => some s
    | c :: rest =>
      if isLineEnd c then read fuel (c == '\n') name s rest
      else if isBlank c then
        if lineStart then
          match key (rest.dropWhile isBlank) with
          | some (name, after) => read fuel false name s after
          | none => some s
        else read fuel false name s rest
      else if c == ';' || c == '#' then
        if lineStart then
          let after := rest.dropWhile (· != '\n')
          read fuel true name s (after.drop 1)
        else none
      else if c == '[' then do
        let (title, after) ← upTo (· == ']') false (rest.length + 1) [] rest
        let s := { s with sections := (Text.trim title, []) :: s.sections }
        read fuel false name s (after.drop 1)
      else if c == '=' || c == ':' then
        if name.isEmpty then none
        else do
          let (v, after) ← value (rest.length + 1) true ""
            (rest.dropWhile fun c => Text.isWhite c && !isLineEnd c)
          read fuel false "" (s.set name v) after
      else do
        let (name, after) ← key cs
        read fuel false name s after

def parse? (s : String) : Option Document := do
  let cs := s.toList
  pure (← read (cs.length + 1) true "" {} cs).document

end ShadowTraffic.Ini
