import ShadowTraffic.Text.Pieces

/-! # Faults of patterns

Why a text is no pattern. A flaw is a part of the text that cannot be read or understood;
`describe` shows the text with the part underlined, and a text of several lines with their
numbers. A pattern without a flaw can still be too large.
-/

namespace ShadowTraffic.Pattern

inductive FlawKind where
  | groupUnclosed
  | groupUnopened
  | groupNameEmpty
  | groupNameInvalid
  | groupNameUnclosed
  | groupNameTwice
  | setUnclosed
  | setEscape
  | setRange
  | setRangeEnd
  | escapeCut
  | escapeUnknown
  | escapeDigit
  | escapeEmpty
  | escapeNoCharacter
  | backReference
  | lookAround
  | nothingToRepeat
  | countUnclosed
  | countEmpty
  | countTooLarge
  | countReversed
  | flagUnknown
  | flagTwice
  | negationTwice
  | negationDangling
  | flagsCut
  | edgeCut
  | edgeUnclosed
  | edgeUnknown
  | partsOfCharacters
  | beyondAscii
  | nestedTooDeep
deriving DecidableEq

def FlawKind.message : FlawKind → String
  | groupUnclosed => "unclosed group"
  | groupUnopened => "unopened group"
  | groupNameEmpty => "empty capture group name"
  | groupNameInvalid => "invalid capture group character"
  | groupNameUnclosed => "unclosed capture group name"
  | groupNameTwice => "duplicate capture group name"
  | setUnclosed => "unclosed character class"
  | setEscape => "invalid escape sequence in character class"
  | setRange => "invalid character class range, the start must be <= the end"
  | setRangeEnd => "invalid range boundary, must be a literal"
  | escapeCut => "incomplete escape sequence, reached end of pattern prematurely"
  | escapeUnknown => "unrecognized escape sequence"
  | escapeDigit => "invalid hexadecimal digit"
  | escapeEmpty => "hexadecimal literal empty"
  | escapeNoCharacter => "hexadecimal literal is not a Unicode scalar value"
  | backReference => "backreferences are not supported"
  | lookAround => "look-around, including look-ahead and look-behind, is not supported"
  | nothingToRepeat => "repetition operator missing expression"
  | countUnclosed => "unclosed counted repetition"
  | countEmpty => "repetition quantifier expects a valid decimal"
  | countTooLarge => "decimal literal invalid"
  | countReversed => "invalid repetition count range, the start must be <= the end"
  | flagUnknown => "unrecognized flag"
  | flagTwice => "duplicate flag"
  | negationTwice => "flag negation operator repeated"
  | negationDangling => "dangling flag negation operator"
  | flagsCut => "expected flag but got end of regex"
  | edgeCut =>
    "found either the beginning of a special word boundary or a bounded repetition on a \\b " ++
      "with an opening brace, but no closing brace"
  | edgeUnclosed =>
    "special word boundary assertion is either unclosed or contains an invalid character"
  | edgeUnknown =>
    "unrecognized special word boundary assertion, valid choices are: start, end, start-half " ++
      "or end-half"
  | partsOfCharacters => "pattern can match invalid UTF-8"
  | beyondAscii => "Unicode not allowed here"
  | nestedTooDeep => "exceed the maximum number of nested parentheses/brackets (250)"

/-- A part of a text by the offsets of its ends. -/
structure Region where
  start : Nat
  stop : Nat
deriving DecidableEq

/-- A flaw, the part it is about, and an earlier part it repeats. -/
structure Flaw where
  kind : FlawKind
  region : Region
  earlier : Option Region := none
deriving DecidableEq

/-! ## Showing flaws -/

namespace Region

/-- The line and the column of an offset, both counted from nothing. -/
def place (lines : List (List Char)) (offset : Nat) : Nat × Nat :=
  match lines with
  | [] => (0, offset)
  | line :: rest =>
    if offset ≤ line.length || rest.isEmpty then (0, offset)
    else
      let (row, column) := place rest (offset - line.length - 1)
      (row + 1, column)

/-- The columns a part takes on a line, if it lies on that line alone. -/
def onLine (lines : List (List Char)) (row : Nat) (r : Region) : Option (Nat × Nat) :=
  let start := place lines r.start
  let stop := place lines r.stop
  if start.1 == row && stop.1 == row then some (start.2, stop.2) else none

/-- Where a part that lies on several lines begins and ends. -/
def acrossLines (lines : List (List Char)) (r : Region) : Option String :=
  let start := place lines r.start
  let stop := place lines r.stop
  if start.1 == stop.1 then none
  else
    some ("on line " ++ toString (start.1 + 1) ++ " (column " ++ toString (start.2 + 1) ++
      ") through line " ++ toString (stop.1 + 1) ++ " (column " ++ toString stop.2 ++ ")")

end Region

namespace Flaw

/-- The parts of a flaw in order. -/
def regions (f : Flaw) : List Region :=
  match f.earlier with
  | none => [f.region]
  | some r =>
    if r.start < f.region.start || (r.start == f.region.start && r.stop ≤ f.region.stop) then
      [r, f.region]
    else [f.region, r]

/-- Carets below columns; an empty part still gets one. -/
def carets (reached : Nat) : List (Nat × Nat) → List Char
  | [] => []
  | (start, stop) :: rest =>
    let width := max 1 (stop - start)
    List.replicate (start - reached) ' ' ++ List.replicate width '^' ++
      carets (max reached start + width) rest

def margin (count row : Nat) : String :=
  if count ≤ 1 then "    "
  else
    let width := (toString count).length
    let number := toString (row + 1)
    String.ofList (List.replicate (width - number.length) ' ') ++ number ++ ": "

/-- A line without the carriage return that belongs to its end. -/
def shownLine (isLast : Bool) (line : List Char) : List Char :=
  if !isLast && line.getLast? == some '\r' then line.dropLast else line

/-- The lines of a text, each with the carets below it. -/
def marked (f : Flaw) (lines : List (List Char)) : (row : Nat) → List (List Char) → String
  | _, [] => ""
  | row, line :: rest =>
    let isLast := rest.isEmpty
    if isLast && row > 0 && line.isEmpty then ""
    else
      let front := margin lines.length row
      let notes := f.regions.filterMap (Region.onLine lines row)
      let below := if notes.isEmpty then "" else
        String.ofList (List.replicate front.length ' ' ++ carets 0 notes) ++ "\n"
      front ++ String.ofList (shownLine isLast line) ++ "\n" ++ below ++
        marked f lines (row + 1) rest

/-- The flaw of a text, with the text itself and the part to blame. -/
def describe (f : Flaw) (source : String) : String :=
  let lines := (Text.pieces source "\n").map String.toList
  let shown := marked f lines 0 lines
  let message := "error: " ++ f.kind.message
  if lines.length ≤ 1 then "regex parse error:\n" ++ shown ++ message
  else
    let divider := String.ofList (List.replicate 79 '~') ++ "\n"
    let across := f.regions.filterMap (Region.acrossLines lines)
    let notes := if across.isEmpty then "" else Text.joined "\n" across ++ "\n"
    "regex parse error:\n" ++ divider ++ shown ++ divider ++ notes ++ message

end Flaw

/-- How many bytes the automaton of a pattern may take. -/
def largestFootprint : Nat := 10485760

inductive Fault where
  | flawed (flaw : Flaw)
  | tooLarge
deriving DecidableEq

def Fault.describe (f : Fault) (source : String) : String :=
  match f with
  | flawed flaw => flaw.describe source
  | tooLarge =>
    "Compiled regex exceeds size limit of " ++ toString largestFootprint ++ " bytes."

end ShadowTraffic.Pattern
