import ShadowTraffic.Yaml.Layout
import ShadowTraffic.Yaml.Plain
import ShadowTraffic.Yaml.Quoted

/-! # The tokens of a YAML text

What each character that begins a token does to the layout. A node in front of a colon is made a
key afterwards: the token that announces it, and the one that opens its collection if it is the
first there, are put in front of it. In brackets a key and its value make a mapping of one pair
without braces.
-/

namespace ShadowTraffic.Yaml.Layout

/-! ## Documents -/

/-- A mark between documents; it closes all blocks. -/
def documentMark? (l : Layout) (t : Token) : Option Layout := do
  let l ← l.closeAll.dropKey?
  pure ({ l with mayOpen := false, cursor := l.cursor.past 3 }.push t)

/-- A mark behind a document; nothing else stands on its line. -/
def documentEnd? (l : Layout) : Option Layout := do
  let l ← l.documentMark? .documentEnd
  let l ← l.pastToken? 0
  if l.cursor.endsLine then pure l else none

/-- All tokens of a text that ends here; no flow collection is open. -/
def finish? (l : Layout) : Option (List Token) := do
  let l ← l.closeAll.dropKey?
  if l.inFlow then none else pure l.tokens.reverse

/-! ## Flow collections -/

/-- Closes a pair without braces whose value ends here. -/
def closePair (l : Layout) : Layout :=
  match l.pairs with
  | some depth :: pairs =>
    if depth == l.depth then { l with braced := false, pairs := none :: pairs }.push .closeBrace
    else l
  | _ => l

def openFlow? (l : Layout) (t : Token) : Option Layout := do
  let l := l.markKey.indentEntry
  if l.depth ≥ flowLimit then none
  else
    let l := { l with candidate := none, outer := l.candidate :: l.outer, mayOpen := true }
    let l := if t == .openBrace then { l with braced := true }
      else { l with pairs := none :: l.pairs }
    pure ((← l.pastToken? 1).push t)

def closeFlow? (l : Layout) (t : Token) : Option Layout := do
  let l ← l.dropKey?
  match l.outer with
  | [] => none
  | candidate :: outer =>
    let l := if t == .closeBracket then { l.closePair with pairs := l.pairs.tail } else l
    let l := { l with candidate, outer, mayOpen := false }
    let l ← l.pastToken? 1
    let tight := if l.inFlow then l.cursor.index else l.tight
    pure ({ l with tight }.push t)

def comma? (l : Layout) : Option Layout := do
  let l ← l.dropKey?
  let l ← { l.closePair with mayOpen := true }.pastToken? 1
  pure (l.push .comma)

/-! ## Entries of blocks -/

def atItem (c : Cursor) : Bool :=
  match c.rest with
  | '-' :: rest => opensBlank rest
  | _ => false

/-- The hyphen of an item. What is behind it on its line may be an item too, but not behind a
tab. -/
def item? (l : Layout) : Option Layout := do
  if l.inFlow || !l.mayOpen then none
  else
    let l := l.openBlock l.cursor.column l.tokens.length .openSequence
    let (blanks, c) ← l.cursor.next.spacing?
    if blanks.contains '\t' && atItem c then none
    else
      let l := { l with cursor := c }
      let opens := c.rest.head?.any fun x => x == '\n' || isFlowMark x
      let l ← (if opens then l.indentEntry else l).dropKey?
      pure ({ l with mayOpen := true }.push .item)

def markedKey? (l : Layout) : Option Layout := do
  if !l.inFlow && !l.mayOpen then none
  else
    let opened := if l.inFlow then { l with braced := true }
      else l.openBlock l.cursor.column l.tokens.length .openMapping
    let l ← opened.dropKey?
    let c ← l.cursor.next.pastKeySpaces?
    pure ({ l with mayOpen := !l.inFlow, cursor := c }.push .key)

/-- Past the colon behind a key. A tab without a space does not separate it from a word. -/
def pastColon? (c : Cursor) : Option Cursor :=
  match c.next.rest with
  | '\t' :: _ => do
    let (blanks, after) ← c.next.spacing?
    let opensWord := after.rest.head?.any fun x => x == '-' || x == '_' || x.isAlphanum
    if opensWord && !blanks.contains ' ' then none else pure after
  | _ => some c.next

def colon? (l : Layout) : Option Layout := do
  let start := l.cursor
  let c ← pastColon? start
  let isPair := !l.pairs.isEmpty && !l.braced
  let l := { l with cursor := c }
  let l := if isPair then { l with pairs := some l.depth :: l.pairs.tail } else l
  match l.candidate with
  | some k =>
    if isPair && k.line < start.line then none
    else
      let l := l.insert k.place .key
      let l := if isPair then l.insert k.place .openBrace else l
      let l := (l.openBlock k.column k.place .openMapping).indentEntry
      pure ({ l with candidate := none, mayOpen := false }.push .colon)
  | none =>
    let l := if isPair then l.push .openBrace else l
    if l.inFlow then pure ({ l with mayOpen := false }.push .colon)
    else if l.mayOpen then
      let l := l.openBlock start.column l.tokens.length .openMapping
      pure (l.indentEntry.push .colon)
    else none

/-! ## Scalars -/

/-- A scalar in quotes. In a flow collection a colon behind it needs no blank. -/
def quoted? (l : Layout) : Option Layout := do
  let l := { l.markKey with mayOpen := false }
  let (s, c) ← Quoted.read? l.inFlow l.indent l.cursor
  let l ← { l with cursor := c }.toToken?
  pure ({ l with tight := l.cursor.index }.push (.quoted s))

/-- A scalar without quotes; behind its last line a key may begin. -/
def plain? (l : Layout) : Option Layout := do
  let l := l.markKey.unindentEntry
  let (s, c) ← Plain.read? l.inFlow l.inside l.cursor
  pure ({ l with cursor := c, mayOpen := c.leading }.push (.plain s))

/-! ## Tokens -/

/-- Whether a colon in front of these characters separates a key from its value. -/
def isColon (l : Layout) (rest : List Char) : Bool :=
  opensBlank rest || (l.inFlow && (opensFlow rest || l.tight == l.cursor.index))

/-- Characters that begin other kinds of nodes, or none at all. -/
def isReserved (l : Layout) (c : Char) : Bool :=
  "*&!%@`".toList.contains c || (!l.inFlow && (c == '|' || c == '>'))

def take? (l : Layout) : Option Layout :=
  match l.cursor.rest with
  | [] => none
  | c :: rest =>
    if l.cursor.atMark then
      if c == '-' then l.documentMark? .documentStart else l.documentEnd?
    else if l.cursor.column < l.indent then none
    else match c with
      | '[' => l.openFlow? .openBracket
      | '\x7b' => l.openFlow? .openBrace
      | ']' => l.closeFlow? .closeBracket
      | '\x7d' => l.closeFlow? .closeBrace
      | ',' => l.comma?
      | '\'' | '"' => l.quoted?
      | c =>
        if c == '-' && opensBlank rest then l.item?
        else if c == '?' && opensBlank rest then l.markedKey?
        else if c == ':' && l.isColon rest then l.colon?
        else if l.isReserved c then none
        else l.plain?

/-- All tokens, given what is known so far. -/
def tokens? : (fuel : Nat) → Layout → Option (List Token)
  | 0, _ => none
  | fuel + 1, l => do
    let l ← (← l.toToken?).dropStaleKey?
    let l := l.close l.cursor.column
    if l.cursor.rest.isEmpty then l.finish? else tokens? fuel (← l.take?)

end ShadowTraffic.Yaml.Layout
