import ShadowTraffic.Yaml.Cursor

/-! # Plain scalars of YAML

A plain scalar ends before a colon with a blank behind it, before a hash with a blank in front of
it, and in a flow collection before its brackets and commas. It may go over several lines that are
indented further than the collection around it.
-/

namespace ShadowTraffic.Yaml.Plain

/-- Whether a character ends a plain scalar, given those behind it. -/
def stops (inFlow : Bool) (c : Char) (rest : List Char) : Bool :=
  (c == ':' && (opensBlank rest || (inFlow && opensFlow rest))) || (inFlow && isFlowMark c)

/-- The characters up to a blank or the end of the scalar. -/
def word (inFlow : Bool) : List Char → List Char
  | [] => []
  | c :: rest => if isSpacing c || stops inFlow c rest then [] else c :: word inFlow rest

/-- Whether a hyphen stands here in front of a bracket or a comma. -/
def atLoneHyphen (c : Cursor) : Bool :=
  match c.rest with
  | '-' :: rest => opensFlow rest
  | _ => false

/-- Reads on to the end of the scalar, given the first column it may stand in; what was read and
the gap behind it stand in reverse. -/
def rest? (inFlow : Bool) (column : Nat) : (fuel : Nat) → (read gap : List Char) → Cursor →
    Option (String × Cursor)
  | 0, _, _, _ => none
  | fuel + 1, read, gap, c =>
    if c.atMark || c.rest.head? == some '#' then some (String.ofList read.reverse, c)
    else if inFlow && atLoneHyphen c then none
    else
      let word := word inFlow c.rest
      let read := if word.isEmpty then read else word.reverse ++ gap ++ read
      let c := c.past word.length
      if c.rest.head?.any isSpacing then do
        let (gap, c) ← Gap.read? Cursor.pastBlankLine? column (c.rest.length + 1) {} c
        if !inFlow && c.column < column then pure (String.ofList read.reverse, c)
        else rest? inFlow column fuel read (gap.text c.leading).reverse c
      else some (String.ofList read.reverse, c)

/-- The scalar that begins here. In a flow collection its first line is indented as the others. -/
def read? (inFlow : Bool) (column : Nat) (c : Cursor) : Option (String × Cursor) :=
  if inFlow && c.column < column then none
  else rest? inFlow column (c.rest.length + 1) [] [] c

end ShadowTraffic.Yaml.Plain
