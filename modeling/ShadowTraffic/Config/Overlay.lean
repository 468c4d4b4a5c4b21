import ShadowTraffic.Document
import ShadowTraffic.Number.Reading

/-! # Laying documents over one another

A document is laid over another field by field: tables are merged, and anything else takes the
place of what was there. A path leads to a place inside a document; what is in its way and is not
a table or a list gives way.
-/

namespace ShadowTraffic

namespace Document

/-- Sets a field in its old place, or behind the others. -/
def putField (name : String) (value : Document) : List (String × Document) →
    List (String × Document)
  | [] => [(name, value)]
  | (other, old) :: rest =>
    if other == name then (name, value) :: rest else (other, old) :: putField name value rest

/-- The fields of a table; anything else has none. -/
def fieldsOrNone : Document → List (String × Document)
  | .table fields => fields
  | _ => []

/-- The items of a list; anything else has none. -/
def itemsOrNone : Document → List Document
  | .list items => items
  | _ => []

mutual

/-- Each field once, where it stood first, with what was given last. -/
def unique : Document → Document
  | .table fields => .table (uniqueFields [] fields)
  | .list items => .list (uniqueItems items)
  | doc => doc

/-- Fields laid behind those read so far. -/
def uniqueFields (read : List (String × Document)) : List (String × Document) →
    List (String × Document)
  | [] => read
  | (name, value) :: rest => uniqueFields (putField name (unique value) read) rest

def uniqueItems : List Document → List Document
  | [] => []
  | item :: rest => unique item :: uniqueItems rest

end

mutual

/-- A document laid over another. -/
def overlay (below : Document) : Document → Document
  | .table fields => .table (overlayFields below.fieldsOrNone fields)
  | doc => doc

def overlayFields (below : List (String × Document)) : List (String × Document) →
    List (String × Document)
  | [] => below
  | (name, value) :: rest =>
    let old := ((below.find? (·.1 == name)).map (·.2)).getD .null
    overlayFields (putField name (overlay old value) below) rest

end

end Document

/-! ## Paths -/

inductive PathStep where
  | field (name : String)
  /-- An item by its index; a negative one counts from the end. -/
  | item (index : Int)
deriving DecidableEq

def PathStep.isNameChar (c : Char) : Bool :=
  c.isAlphanum || c == '_' || c == '-'

/-- Steps behind the first name of a path. -/
def pathRest : (fuel : Nat) → List Char → Option (List PathStep)
  | 0, _ => none
  | fuel + 1, cs =>
    match cs with
    | [] => some []
    | '.' :: rest => do
      let name := rest.takeWhile PathStep.isNameChar
      if name.isEmpty then none
      else pure (.field (String.ofList name) :: (← pathRest fuel (rest.drop name.length)))
    | '[' :: rest => do
      let inside := rest.takeWhile (· != ']')
      let isBlank (c : Char) := c == ' ' || c == '\t'
      let digits := ((inside.dropWhile isBlank).reverse.dropWhile isBlank).reverse
      if digits.head? == some '+' then none
      else
        let index ← Number.integerIn? 10 digits
        match rest.drop inside.length with
        | ']' :: rest => pure (.item index :: (← pathRest fuel rest))
        | _ => none
    | _ => none

/-- The path a text writes: names with points between them and indices in brackets. -/
def path? (s : String) : Option (List PathStep) :=
  let cs := s.toList
  let name := cs.takeWhile PathStep.isNameChar
  if name.isEmpty then none
  else (pathRest (cs.length + 1) (cs.drop name.length)).map (.field (String.ofList name) :: ·)

/-- The path of a key: the one it writes, or else a single field of that name. -/
def pathOf (key : String) : List PathStep :=
  (path? key).getD [.field key]

namespace Document

/-- Lays a document over the place that a path leads to. -/
def setAt (value : Document) : List PathStep → Document → Document
  | [], here => here.overlay value
  | .field name :: path, here =>
    let old := (((fieldsOrNone here).find? (·.1 == name)).map (·.2)).getD .null
    .table (putField name (setAt value path old) (fieldsOrNone here))
  | .item index :: path, here =>
    let items := itemsOrNone here
    let missing := if index < 0 then (-index).toNat - items.length else 0
    let place := if index < 0 then items.length - (-index).toNat else index.toNat
    let items := List.replicate missing .null ++ items
    let items := items ++ List.replicate (place + 1 - items.length) .null
    .list (items.set place (setAt value path (items[place]?.getD .null)))

/-- Lays fields over a document, each at the path of its name. -/
def setAll (root : Document) (fields : List (String × Document)) : Document :=
  fields.foldl (fun root f => setAt f.2 (pathOf f.1) root) root

end Document

end ShadowTraffic
