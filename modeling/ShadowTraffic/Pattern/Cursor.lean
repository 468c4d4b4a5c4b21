import ShadowTraffic.Number.Reading
import ShadowTraffic.Pattern.Nesting
import ShadowTraffic.Text.Blank
import ShadowTraffic.Text.CaseFold

/-! # Positions in written patterns

A cursor holds what is left of a pattern's text together with the flags in force. Flags hold from
where they stand to the end of their group, across alternatives. Places are told by how many
characters have been read, so that a flaw can name the part of the text it is about. A part that
can be read but not understood is remembered until the whole text has been read.
-/

namespace ShadowTraffic.Pattern

structure Flags where
  anyCase : Bool := false
  multiLine : Bool := false
  dotAll : Bool := false
  returns : Bool := false
  unicode : Bool := true
  verbose : Bool := false

/-- What is left to read of a text of `size` characters, the flags in force and the group names
seen so far. -/
structure Cursor where
  rest : List Char
  size : Nat
  flags : Flags := {}
  names : List (String × Region) := []
  /-- The first part that has no meaning where it stands. -/
  misfit : Option Flaw := none

def fail {α : Type} (kind : FlawKind) (region : Region) (earlier : Option Region := none) :
    Except Flaw α :=
  .error { kind, region, earlier }

namespace Cursor

/-- Before the first character. -/
def start (s : String) : Cursor :=
  { rest := s.toList, size := s.length }

def move (c : Cursor) (rest : List Char) : Cursor :=
  { c with rest }

/-- Drops blanks and comments, each of these up to the end of its line, `fuel` times. -/
def dropComments : (fuel : Nat) → List Char → List Char
  | 0, cs => cs
  | fuel + 1, cs =>
    match cs.dropWhile Text.isWhite with
    | '#' :: rest => dropComments fuel (rest.dropWhile (· != '\n'))
    | cs => cs

/-- Blanks and comments are skipped where the verbose flag holds. -/
def skip (c : Cursor) : Cursor :=
  if c.flags.verbose then c.move (dropComments (c.rest.length + 1) c.rest) else c

/-- Past `n` characters, and past blanks in verbose text. -/
def past (c : Cursor) (n : Nat) : Cursor :=
  (c.move (c.rest.drop n)).skip

def offset (c : Cursor) : Nat :=
  c.size - c.rest.length

def since (c earlier : Cursor) : Region :=
  ⟨earlier.offset, c.offset⟩

def here (c : Cursor) : Region :=
  ⟨c.offset, c.offset⟩

def next (c : Cursor) : Region :=
  ⟨c.offset, c.offset + 1⟩

/-- Remembers that a part has no meaning, unless there is an earlier one. -/
def objectsIf (c : Cursor) (condition : Bool) (kind : FlawKind) (region : Region) : Cursor :=
  if condition && c.misfit.isNone then { c with misfit := some { kind, region } } else c

end Cursor

/-- A set together with what matches its members under the flags. -/
def Flags.variants (flags : Flags) (s : Text.CodeRanges) : Text.CodeRanges :=
  if flags.anyCase then if flags.unicode then s.anyCase else s.asciiAnyCase else s

end ShadowTraffic.Pattern
