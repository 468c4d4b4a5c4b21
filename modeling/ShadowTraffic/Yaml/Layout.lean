import ShadowTraffic.Yaml.Cursor
import ShadowTraffic.Yaml.Token

/-! # The layout of a YAML text

What is known of a text up to a place: its tokens so far, the margins that its open block
collections stand in, and the nodes that become keys if a colon follows. A margin is opened by the
first token in a column further right than those before, and closed by one further left. Inside of
flow collections margins stay as they are, and no token stands left of them.
-/

namespace ShadowTraffic.Yaml

structure Margin where
  column : Nat
  /-- Whether a block collection stands in it. If not, it only says how far what belongs to an
  entry is indented at least. -/
  block : Bool

/-- Where a node begins that is a key if a colon follows it. -/
structure KeyStart where
  /-- How many tokens come before it. -/
  place : Nat
  index : Nat
  line : Nat
  column : Nat
  /-- Whether nothing but a key may stand here. -/
  required : Bool

def keyLimit : Nat := 1024

def flowLimit : Nat := 255

/-- What is known of a text up to a place. -/
structure Layout where
  cursor : Cursor
  /-- The tokens so far, in reverse. -/
  tokens : List Token := []
  /-- The margins, from the right. -/
  margins : List Margin := []
  /-- The node that a colon makes a key. -/
  candidate : Option KeyStart := none
  /-- The candidates outside of the open flow collections, from within. -/
  outer : List (Option KeyStart) := []
  /-- Whether a key or an entry may begin here. -/
  mayOpen : Bool := true
  /-- The place at which a colon needs no blank behind it. -/
  tight : Nat := 0
  /-- Whether a brace has been opened since a pair without braces was closed. -/
  braced : Bool := false
  /-- For each open bracket, from within, how many flow collections are open around the value of a
  pair that stands in it without braces. -/
  pairs : List (Option Nat) := []

namespace Layout

/-! ## Margins -/

def depth (l : Layout) : Nat :=
  l.outer.length

def inFlow (l : Layout) : Bool :=
  !l.outer.isEmpty

def indent (l : Layout) : Nat :=
  (l.margins.head?.map Margin.column).getD 0

/-- The first column to the right of all margins. -/
def inside (l : Layout) : Nat :=
  (l.margins.head?.map (·.column + 1)).getD 0

def push (l : Layout) (t : Token) : Layout :=
  { l with tokens := t :: l.tokens }

/-- One more token behind the first so many. -/
def insert (l : Layout) (place : Nat) (t : Token) : Layout :=
  { l with tokens := l.tokens.insertIdx (l.tokens.length - place) t }

/-- Without the margins to the right of a column, the blocks in them closed. -/
def closeTo (column : Nat) : List Margin → List Token → List Margin × List Token
  | [], tokens => ([], tokens)
  | m :: margins, tokens =>
    if m.column > column then
      closeTo column margins (if m.block then .closeBlock :: tokens else tokens)
    else (m :: margins, tokens)

def close (l : Layout) (column : Nat) : Layout :=
  if l.inFlow then l
  else
    let (margins, tokens) := closeTo column l.margins l.tokens
    { l with margins, tokens }

def closeAll (l : Layout) : Layout :=
  if l.inFlow then l
  else
    let blocks := l.margins.filter Margin.block
    { l with margins := [], tokens := blocks.map (fun _ => .closeBlock) ++ l.tokens }

/-- Opens the margin of a block collection, unless it is open; the token that opens it stands
behind the first so many. -/
def openBlock (l : Layout) (column place : Nat) (t : Token) : Layout :=
  if l.inFlow then l
  else
    let margins := match l.margins with
      | m :: margins => if !m.block && m.column ≤ column then margins else m :: margins
      | [] => []
    if margins.head?.all (·.column < column) then
      { l with margins := ⟨column, true⟩ :: margins }.insert place t
    else { l with margins }

/-- What belongs to an entry of the last block is indented by a column at least. -/
def indentEntry (l : Layout) : Layout :=
  match l.margins with
  | m :: margins =>
    if m.block && !l.inFlow then { l with margins := ⟨m.column + 1, false⟩ :: m :: margins } else l
  | [] => l

/-- What belongs to an entry may stand in the columns of the last block too. -/
def unindentEntry (l : Layout) : Layout :=
  { l with margins := l.margins.dropWhile (!·.block) }

/-! ## Keys -/

/-- The node that begins here becomes a key if a colon follows. -/
def markKey (l : Layout) : Layout :=
  if l.mayOpen then
    let c := l.cursor
    let required := !l.inFlow && l.margins.head?.any fun m => m.block && m.column == c.column
    { l with candidate := some ⟨l.tokens.length, c.index, c.line, c.column, required⟩ }
  else l

/-- No colon follows any more. -/
def dropKey? (l : Layout) : Option Layout :=
  if l.candidate.any KeyStart.required then none else some { l with candidate := none }

/-- Outside of flow collections a key stands on one line and is not too long. -/
def dropStaleKey? (l : Layout) : Option Layout :=
  let isStale (k : KeyStart) : Bool :=
    k.line < l.cursor.line || k.index + keyLimit < l.cursor.index
  if !l.inFlow && l.candidate.any isStale then l.dropKey? else some l

/-! ## Moving on -/

def pastToken? (l : Layout) (length : Nat) : Option Layout := do
  pure { l with cursor := ← (l.cursor.past length).pastSpacing? }

/-- To the next token; behind a line end a key may begin. -/
def toToken? (l : Layout) : Option Layout := do
  let c ← l.cursor.token? l.indent
  let mayOpen := l.mayOpen || (!l.inFlow && l.cursor.line < c.line)
  pure { l with cursor := c, mayOpen }

end Layout

end ShadowTraffic.Yaml
