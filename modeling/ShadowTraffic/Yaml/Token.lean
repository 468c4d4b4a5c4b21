/-! # Tokens of YAML

What a text consists of once indentation is told by tokens: those that open a block collection, and
the one that ends it. A key is announced by a token of its own, which stands in front of it.
-/

namespace ShadowTraffic.Yaml

inductive Token where
  /-- Three hyphens. -/
  | documentStart
  /-- Three points. -/
  | documentEnd
  | openSequence
  | openMapping
  | closeBlock
  /-- The hyphen of an item. -/
  | item
  | key
  | colon
  | openBracket
  | closeBracket
  | openBrace
  | closeBrace
  | comma
  | plain (s : String)
  | quoted (s : String)
deriving DecidableEq

end ShadowTraffic.Yaml
