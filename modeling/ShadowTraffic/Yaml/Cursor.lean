/-! # Places in a YAML text

Tokens are told by where they stand: the column, the line, and whether only blanks come before them
on it. A cursor keeps these beside the characters that are left. Lines end in one form only; they
are brought to it before reading.
-/

namespace ShadowTraffic.Yaml

/-! ## Characters -/

def isBlank (c : Char) : Bool :=
  c == ' ' || c == '\t'

def isSpacing (c : Char) : Bool :=
  isBlank c || c == '\n'

/-- Whether a text begins with a blank or the end of a line, or is empty. -/
def opensBlank : List Char → Bool
  | [] => true
  | c :: _ => isSpacing c

def isFlowMark (c : Char) : Bool :=
  c == ',' || c == '[' || c == ']' || c == '\x7b' || c == '\x7d'

/-- Whether a text begins with a bracket or a comma. -/
def opensFlow : List Char → Bool
  | [] => false
  | c :: _ => isFlowMark c

def unifyLines : List Char → List Char
  | [] => []
  | '\r' :: '\n' :: rest => '\n' :: unifyLines rest
  | '\r' :: rest => '\n' :: unifyLines rest
  | c :: rest => c :: unifyLines rest

/-! ## Cursors -/

/-- What is left of a text, and where that begins. -/
structure Cursor where
  rest : List Char
  /-- How many characters come before it. -/
  index : Nat := 0
  line : Nat := 0
  column : Nat := 0
  /-- Only blanks come before it on its line. -/
  leading : Bool := true

namespace Cursor

def next (c : Cursor) : Cursor :=
  match c.rest with
  | [] => c
  | '\n' :: rest => ⟨rest, c.index + 1, c.line + 1, 0, true⟩
  | x :: rest => ⟨rest, c.index + 1, c.line, c.column + 1, c.leading && isBlank x⟩

def past : Nat → Cursor → Cursor
  | 0, c => c
  | n + 1, c => past n c.next

def pastLine (c : Cursor) : Cursor :=
  c.past (c.rest.takeWhile (· != '\n')).length

def endsLine (c : Cursor) : Bool :=
  match c.rest with
  | [] | '\n' :: _ => true
  | _ => false

/-- Whether one of the two document marks stands here: three hyphens or three points at the
beginning of a line. -/
def atMark (c : Cursor) : Bool :=
  c.column == 0 &&
    match c.rest with
    | '-' :: '-' :: '-' :: rest | '.' :: '.' :: '.' :: rest => opensBlank rest
    | _ => false

/-- The blanks that stand here, and the place behind them and a comment. A comment without a blank
in front of it is refused. -/
def spacing? (c : Cursor) : Option (List Char × Cursor) :=
  let blanks := c.rest.takeWhile isBlank
  let after := c.past blanks.length
  match after.rest with
  | '#' :: _ => if blanks.isEmpty then none else some (blanks, after.pastLine)
  | _ => some (blanks, after)

def pastSpacing? (c : Cursor) : Option Cursor :=
  c.spacing?.map (·.2)

/-- Past blanks and a comment with which the line ends. -/
def pastBlankLine? (c : Cursor) : Option Cursor :=
  c.pastSpacing?.filter endsLine

/-- Past blanks, line ends and comments, given the least column of a token. A tab in front of that
column is passed on lines without tokens only. -/
def toToken? (column : Nat) : (fuel : Nat) → Cursor → Option Cursor
  | 0, c => some c
  | fuel + 1, c =>
    match c.rest with
    | ' ' :: _ | '\n' :: _ => toToken? column fuel c.next
    | '\t' :: _ =>
      if c.leading && c.column < column then c.pastBlankLine?.bind (toToken? column fuel)
      else toToken? column fuel c.next
    | '#' :: _ => toToken? column fuel c.pastLine
    | _ => some c

def token? (c : Cursor) (column : Nat) : Option Cursor :=
  c.toToken? column (c.rest.length + 1)

/-- Past spaces, line ends and comments. -/
def pastSpaces : (fuel : Nat) → Cursor → Cursor
  | 0, c => c
  | fuel + 1, c =>
    match c.rest with
    | ' ' :: _ | '\n' :: _ => pastSpaces fuel c.next
    | '#' :: _ => pastSpaces fuel c.pastLine
    | _ => c

/-- Past the spaces, line ends and comments behind the mark of a key; tabs are not allowed there. -/
def pastKeySpaces? (c : Cursor) : Option Cursor :=
  let after := c.pastSpaces (c.rest.length + 1)
  if c.rest.head?.any isSpacing && after.rest.head? != some '\t' then some after else none

end Cursor

/-! ## Gaps in scalars -/

/-- Blanks and line ends between two words of a scalar. -/
structure Gap where
  /-- The blanks, in reverse, as long as no line has ended. -/
  blanks : List Char := []
  /-- Whether a line ended in the gap. -/
  broken : Bool := false
  /-- How many empty lines follow. -/
  empty : Nat := 0

namespace Gap

/-- What a gap stands for, given whether the word behind it is the first of its line: a line end
is a space unless empty lines follow, which are kept. -/
def text (gap : Gap) (leading : Bool) : List Char :=
  if !leading then gap.blanks.reverse
  else if gap.broken && gap.empty == 0 then [' ']
  else List.replicate gap.empty '\n'

/-- Reads a gap, given the first column a word may stand in; `tab?` tells how a tab is passed that
stands in front of that column. -/
def read? (tab? : Cursor → Option Cursor) (column : Nat) : (fuel : Nat) → Gap → Cursor →
    Option (Gap × Cursor)
  | 0, gap, c => some (gap, c)
  | fuel + 1, gap, c =>
    match c.rest with
    | '\n' :: _ =>
      let gap := if c.leading then { gap with empty := gap.empty + 1 }
        else { gap with blanks := [], broken := true }
      read? tab? column fuel gap c.next
    | x :: _ =>
      if !isBlank x then some (gap, c)
      else if !c.leading then read? tab? column fuel { gap with blanks := x :: gap.blanks } c.next
      else if x == '\t' && c.column < column then (tab? c).bind (read? tab? column fuel gap)
      else read? tab? column fuel gap c.next
    | [] => some (gap, c)

end Gap

end ShadowTraffic.Yaml
