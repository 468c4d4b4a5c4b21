import ShadowTraffic.Dictionary
import ShadowTraffic.Document

/-! # Traffic contexts

The entries that travel with one logical call, and the flag that says whether it is test traffic
as last derived from them.
-/

namespace ShadowTraffic

structure TrafficContext where
  entries : Dictionary String := .empty
  marked : Bool := false
deriving DecidableEq, Inhabited

namespace TrafficContext

def get? (t : TrafficContext) (key : String) : Option String :=
  t.entries.get? key

/-- Puts an entry; the flag stays. -/
def insert (t : TrafficContext) (key value : String) : TrafficContext :=
  { t with entries := t.entries.insert key value }

/-- Takes an entry away; the flag stays. -/
def remove (t : TrafficContext) (key : String) : TrafficContext :=
  { t with entries := t.entries.erase key }

/-- A fresh context with a trace id under a key. -/
def root (traceIdKey traceId : String) : TrafficContext :=
  ({} : TrafficContext).insert traceIdKey traceId

def toDocument (t : TrafficContext) : Document :=
  .table [
    ("entries", .table (t.entries.entries.map fun e => (e.1, .text e.2))),
    ("marked", .bool t.marked)]

def entriesOfDocument? : Document → Option (Dictionary String)
  | .table fields => do
    let pairs ← fields.mapM fun (key, value) => do pure (key, ← value.text?)
    pure (Dictionary.ofList pairs)
  | _ => none

/-- A context from a document: a table whose entries are required and whose flag may be
missing, or a list of the two in that order. -/
def ofDocument? : Document → Option TrafficContext
  | .table fields => do
    let entries ← entriesOfDocument? (← (Document.table fields).field? "entries")
    let marked ← match (Document.table fields).field? "marked" with
      | some value => value.bool?
      | none => pure false
    pure { entries, marked }
  | .list [entries] => do pure { entries := ← entriesOfDocument? entries }
  | .list [entries, marked] => do
    pure { entries := ← entriesOfDocument? entries, marked := ← marked.bool? }
  | _ => none

end TrafficContext

end ShadowTraffic
