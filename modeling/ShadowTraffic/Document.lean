/-! # Documents

The values that configuration files and requests are written in. Whole numbers are told apart from
doubles. Tables keep their fields in the order given; of two fields with one name the later
counts.
-/

namespace ShadowTraffic

inductive Document where
  | null
  | bool (b : Bool)
  | int (n : Int)
  | real (x : Float)
  | text (s : String)
  | list (items : List Document)
  | table (fields : List (String × Document))
deriving Inhabited

namespace Document

/-- The last field of that name. -/
def field? : Document → String → Option Document
  | .table fields, name => (fields.reverse.find? (·.1 == name)).map (·.2)
  | _, _ => none

/-- The text a value is, if it is one. -/
def text? : Document → Option String
  | .text s => some s
  | _ => none

/-- The truth value a value is, if it is one. -/
def bool? : Document → Option Bool
  | .bool b => some b
  | _ => none

def list? : Document → Option (List Document)
  | .list items => some items
  | _ => none

end Document

end ShadowTraffic
