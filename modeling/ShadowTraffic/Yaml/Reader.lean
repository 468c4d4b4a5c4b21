import ShadowTraffic.Yaml.Indicator
import ShadowTraffic.Yaml.Scalar

/-! # Reading YAML

Block and flow collections of plain and quoted scalars. Keys are scalars, and no two keys of a
mapping are the same scalar. What is left out is null, but for keys. A text holds one document; one
that holds none is an empty table, and more than one are refused.
-/

namespace ShadowTraffic.Yaml

def Token.scalar? : Token → Option Scalar
  | .plain s => some (.ofPlain s)
  | .quoted s => some (.text s)
  | _ => none

/-- A reader takes what it reads from the front of a list of tokens. -/
abbrev Reader (α : Type) := List Token → Option (α × List Token)

/-- The entries of a mapping read so far, in reverse. -/
abbrev Entries := List (Scalar × Document)

namespace Entries

/-- One more entry; its key must be new. -/
def add? (entries : Entries) (key : Scalar) (value : Document) : Option Entries :=
  if entries.any (·.1 == key) then none else some ((key, value) :: entries)

def table? (entries : Entries) : Option Document := do
  pure (.table (← entries.reverse.mapM fun (key, value) => return (← key.key?, value)))

end Entries

def scalar : Reader Scalar
  | [] => none
  | t :: ts => t.scalar?.map (·, ts)

/-- Whether the first token is one of these, or there is none. -/
def endsAt (ends : List Token) : List Token → Bool
  | [] => true
  | t :: _ => ends.contains t

mutual

/-- A node. Under a key the items of a sequence may stand in the column of the key. -/
def node : (fuel : Nat) → (underKey : Bool) → Reader Document
  | 0, _, _ => none
  | fuel + 1, underKey, ts =>
    match ts with
    | .openSequence :: ts => (items fuel [] ts).map fun (items, ts) => (.list items, ts)
    | .openMapping :: ts => do
      let (entries, ts) ← fields fuel [] ts
      pure (← entries.table?, ts)
    | .openBracket :: ts => (flowItems fuel [] ts).map fun (items, ts) => (.list items, ts)
    | .openBrace :: ts => do
      let (entries, ts) ← flowFields fuel [] ts
      pure (← entries.table?, ts)
    | .item :: _ =>
      if underKey then (keyItems fuel [] ts).map fun (items, ts) => (.list items, ts) else none
    | ts => do
      let (s, ts) ← scalar ts
      pure (← s.document?, ts)

/-- A node that may be left out in front of certain tokens. -/
def nodeOrNull : (fuel : Nat) → (underKey : Bool) → (ends : List Token) → Reader Document
  | 0, _, _, _ => none
  | fuel + 1, underKey, ends, ts =>
    if endsAt ends ts then some (.null, ts) else node fuel underKey ts

/-- The value of a key, if a colon comes first. -/
def value : (fuel : Nat) → (underKey : Bool) → (ends : List Token) → Reader Document
  | 0, _, _, _ => none
  | fuel + 1, underKey, ends, ts =>
    match ts with
    | .colon :: ts => nodeOrNull fuel underKey ends ts
    | ts => some (.null, ts)

/-- The items of a block sequence up to its end, in reverse. -/
def items : (fuel : Nat) → List Document → Reader (List Document)
  | 0, _, _ => none
  | fuel + 1, read, ts =>
    match ts with
    | .closeBlock :: ts => some (read.reverse, ts)
    | .item :: ts => do
      let (item, ts) ← nodeOrNull fuel false [.item, .closeBlock] ts
      items fuel (item :: read) ts
    | _ => none

/-- The items of a sequence in the column of its key, in reverse. -/
def keyItems : (fuel : Nat) → List Document → Reader (List Document)
  | 0, _, _ => none
  | fuel + 1, read, ts =>
    match ts with
    | .item :: ts => do
      let (item, ts) ← nodeOrNull fuel false [.item, .key, .colon, .closeBlock] ts
      keyItems fuel (item :: read) ts
    | ts => some (read.reverse, ts)

/-- The fields of a block mapping up to its end. -/
def fields : (fuel : Nat) → Entries → Reader Entries
  | 0, _, _ => none
  | fuel + 1, read, ts =>
    match ts with
    | .closeBlock :: ts => some (read, ts)
    | .key :: ts => do
      let (key, ts) ← scalar ts
      let (value, ts) ← value fuel true [.key, .colon, .closeBlock] ts
      fields fuel (← read.add? key value) ts
    | _ => none

/-- The items of a sequence in brackets up to its end, in reverse. A pair is a table. -/
def flowItems : (fuel : Nat) → List Document → Reader (List Document)
  | 0, _, _ => none
  | fuel + 1, read, ts =>
    match ts with
    | .closeBracket :: ts => some (read.reverse, ts)
    | ts => do
      let (item, ts) ← match ts with
        | .key :: ts => do
          let (key, ts) ← scalar ts
          let (value, ts) ← value fuel false [.comma, .closeBracket] ts
          pure (← Entries.table? [(key, value)], ts)
        | ts => node fuel false ts
      match ts with
      | .comma :: ts => flowItems fuel (item :: read) ts
      | .closeBracket :: ts => pure ((item :: read).reverse, ts)
      | _ => none

/-- The fields of a mapping in braces up to its end. -/
def flowFields : (fuel : Nat) → Entries → Reader Entries
  | 0, _, _ => none
  | fuel + 1, read, ts =>
    match ts with
    | .closeBrace :: ts => some (read, ts)
    | ts => do
      let (key, value, ts) ← match ts with
        | .key :: ts => do
          let (key, ts) ← scalar ts
          let (value, ts) ← value fuel false [.comma, .closeBrace] ts
          pure (key, value, ts)
        | ts => do
          let (key, ts) ← scalar ts
          pure (key, .null, ts)
      let read ← read.add? key value
      match ts with
      | .comma :: ts => flowFields fuel read ts
      | .closeBrace :: ts => pure (read, ts)
      | _ => none

end

def document? (ts : List Token) : Option Document := do
  match ts.dropWhile (· == .documentEnd) with
  | [] => pure (.table [])
  | t :: ts =>
    let fuel := 3 * ts.length + 4
    let (doc, rest) ← if t == .documentStart then
        nodeOrNull fuel false [.documentStart, .documentEnd] ts
      else node fuel false (t :: ts)
    if rest.all (· == .documentEnd) then pure doc else none

/-- The tokens of a text; it ends at a character of code zero. -/
def tokens? (s : String) : Option (List Token) :=
  let cs := unifyLines (s.toList.takeWhile (· != '\x00'))
  Layout.tokens? (cs.length + 1) { cursor := { rest := cs } }

def parse? (s : String) : Option Document := do
  document? (← tokens? s)

end ShadowTraffic.Yaml
