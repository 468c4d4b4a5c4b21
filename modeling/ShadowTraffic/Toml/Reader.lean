import ShadowTraffic.Toml.Value

/-! # Reading TOML

A text is lines that open a table, open one more table of a list, or set a key of the table opened
last. No key is set twice, and a table is opened once: what was set by a key is not opened again,
and what was opened is not reached by a key with points. Lists and tables in braces may go on over
several lines and end with a comma; at most `depthLimit` of them lie in one another.
-/

namespace ShadowTraffic.Toml

/-! ## Tables under construction -/

inductive Origin where
  /-- On the way to another table that was opened. -/
  | passed
  | opened
  /-- On the way to a key with points. -/
  | pointed
deriving DecidableEq

/-- A value, a table that may still grow, or a list of tables of which the last may. -/
inductive Node where
  | value (d : Document)
  | table (origin : Origin) (fields : List (String × Node))
  | tables (done : List (List (String × Node))) (last : List (String × Node))

/-- Fields in the order they were set. -/
abbrev Fields := List (String × Node)

namespace Fields

def get? (fields : Fields) (name : String) : Option Node :=
  (fields.find? (·.1 == name)).map (·.2)

/-- Sets a field in its old place, or behind the others. -/
def put (fields : Fields) (name : String) (node : Node) : Fields :=
  if fields.any (·.1 == name) then fields.map fun f => if f.1 == name then (name, node) else f
  else fields ++ [(name, node)]

/-- Changes the table that a header leads to, passing through others. -/
def within (change : Fields → Option Fields) : List String → Fields → Option Fields
  | [], fields => change fields
  | name :: path, fields => do
    match fields.get? name with
    | none => pure (fields.put name (.table .passed (← within change path [])))
    | some (.table origin inner) =>
      pure (fields.put name (.table origin (← within change path inner)))
    | some (.tables done last) =>
      pure (fields.put name (.tables done (← within change path last)))
    | some (.value _) => none

/-- Opens a table: it must be new or only passed through so far. -/
def openTable (name : String) (fields : Fields) : Option Fields :=
  match fields.get? name with
  | none => some (fields.put name (.table .opened []))
  | some (.table .passed inner) => some (fields.put name (.table .opened inner))
  | _ => none

def openNext (name : String) (fields : Fields) : Option Fields :=
  match fields.get? name with
  | none => some (fields.put name (.tables [] []))
  | some (.tables done last) => some (fields.put name (.tables (done ++ [last]) []))
  | _ => none

/-- Sets a key, which may have points. -/
def set (value : Document) : List String → Fields → Option Fields
  | [], _ => none
  | [name], fields =>
    match fields.get? name with
    | none => some (fields.put name (.value value))
    | some _ => none
  | name :: path, fields => do
    match fields.get? name with
    | none => pure (fields.put name (.table .pointed (← set value path [])))
    | some (.table .opened _) => none
    | some (.table origin inner) =>
      pure (fields.put name (.table origin (← set value path inner)))
    | some _ => none

end Fields

mutual

def Node.document : Node → Document
  | .value d => d
  | .table _ fields => .table (documentFields fields)
  | .tables done last => .list (documentTables done ++ [.table (documentFields last)])

def documentFields : List (String × Node) → List (String × Document)
  | [] => []
  | (name, node) :: rest => (name, node.document) :: documentFields rest

def documentTables : List (List (String × Node)) → List Document
  | [] => []
  | fields :: rest => .table (documentFields fields) :: documentTables rest

end

/-! ## Lines -/

/-- Characters of keys without quotes. -/
def isBare (c : Char) : Bool :=
  c.isAlphanum || c == '_' || c == '-'

def keyPart : Reader String := fun cs =>
  match cs with
  | '"' :: rest => lineText '"' (rest.length + 1) [] rest
  | '\'' :: rest => lineText '\'' (rest.length + 1) [] rest
  | cs =>
    let name := cs.takeWhile isBare
    if name.isEmpty then none else some (String.ofList name, cs.drop name.length)

/-- A key: parts with points between them and blanks around. -/
def key : (fuel : Nat) → Reader (List String)
  | 0, _ => none
  | fuel + 1, cs => do
    let (part, rest) ← keyPart (pastBlanks cs)
    match pastBlanks rest with
    | '.' :: rest => do
      let (parts, rest) ← key fuel rest
      pure (part :: parts, rest)
    | rest => pure ([part], rest)

def depthLimit : Nat := 80

mutual

def value : (fuel depth : Nat) → Reader Document
  | 0, _, _ => none
  | fuel + 1, depth, cs =>
    match cs, depth with
    | '"' :: _, _ | '\'' :: _, _ => (text cs).map fun (s, rest) => (.text s, rest)
    | '[' :: _, 0 | '\x7b' :: _, 0 => none
    | '[' :: rest, depth + 1 =>
      (items fuel depth [] rest).map fun (items, rest) => (.list items, rest)
    | '\x7b' :: rest, depth + 1 =>
      (pairs fuel depth [] rest).map fun (fields, rest) => (.table (documentFields fields), rest)
    | cs, _ => scalar cs

/-- The items of a list up to its bracket, in reverse. -/
def items : (fuel depth : Nat) → List Document → Reader (List Document)
  | 0, _, _, _ => none
  | fuel + 1, depth, read, cs =>
    match pastLines (cs.length + 1) cs with
    | ']' :: rest => some (read.reverse, rest)
    | cs => do
      let (item, rest) ← value fuel depth cs
      match pastLines (rest.length + 1) rest with
      | ',' :: rest => items fuel depth (item :: read) rest
      | ']' :: rest => pure ((item :: read).reverse, rest)
      | _ => none

def pairs : (fuel depth : Nat) → Fields → Reader Fields
  | 0, _, _, _ => none
  | fuel + 1, depth, read, cs =>
    match pastLines (cs.length + 1) cs with
    | '\x7d' :: rest => some (read, rest)
    | cs => do
      let (path, rest) ← key (cs.length + 1) cs
      match pastLines (rest.length + 1) rest with
      | '=' :: rest =>
        let (v, rest) ← value fuel depth (pastLines (rest.length + 1) rest)
        let read ← read.set v path
        match pastLines (rest.length + 1) rest with
        | ',' :: rest => pairs fuel depth read rest
        | '\x7d' :: rest => pure (read, rest)
        | _ => none
      | _ => none

end

/-- Past the end of a line, which may hold a comment; the text may end there. -/
def lineEnd? (cs : List Char) : Option (List Char) :=
  match pastComment (pastBlanks cs) with
  | [] => some []
  | cs => newline? cs

/-- The lines of a text, given the table opened last and what was set so far. -/
def lines : (fuel : Nat) → (path : List String) → Fields → List Char → Option Fields
  | 0, _, _, _ => none
  | fuel + 1, path, root, cs =>
    match pastLines (cs.length + 1) cs with
    | [] => some root
    | '[' :: '[' :: rest => do
      let (path, rest) ← key (rest.length + 1) rest
      match rest with
      | ']' :: ']' :: rest =>
        let root ← root.within (Fields.openNext (path.getLast?.getD "")) path.dropLast
        lines fuel path root (← lineEnd? rest)
      | _ => none
    | '[' :: rest => do
      let (path, rest) ← key (rest.length + 1) rest
      match rest with
      | ']' :: rest =>
        let root ← root.within (Fields.openTable (path.getLast?.getD "")) path.dropLast
        lines fuel path root (← lineEnd? rest)
      | _ => none
    | cs => do
      let (name, rest) ← key (cs.length + 1) cs
      match rest with
      | '=' :: rest =>
        let (v, rest) ← value (2 * rest.length + 2) depthLimit (pastBlanks rest)
        let root ← root.within (Fields.set v name) path
        lines fuel path root (← lineEnd? rest)
      | _ => none

def parse? (s : String) : Option Document := do
  let cs := s.toList
  pure (.table (documentFields (← lines (cs.length + 1) [] [] cs)))

end ShadowTraffic.Toml
