import ShadowTraffic.Routing.Dispatcher
import ShadowTraffic.Text.Quoted

/-! # Substitutes

Two ways to answer test traffic without touching a resource: a table of fixed answers by
resource, and a list of cases of which the first that applies decides.
-/

namespace ShadowTraffic

structure MockTable where
  answers : Dictionary String := .empty
deriving DecidableEq, Inhabited

namespace MockTable

/-- A table of pairs; of two answers for one resource the later counts. -/
def ofList (answers : List (String × String)) : MockTable :=
  ⟨Dictionary.ofList answers⟩

/-- The table as a substitute; it never fails. -/
def substitute {ε : Type} (m : MockTable) : Substitute String ε :=
  fun resource => (resource.bind m.answers.get?).map .ok

def description (m : MockTable) : String :=
  let entry (e : String × String) := Text.quoted e.1 ++ ": " ++ Text.quoted e.2
  "MockTable \x7b responses: \x7b" ++ Text.joined ", " (m.answers.entries.map entry) ++ "\x7d \x7d"

end MockTable

/-- Which resources a case applies to. -/
inductive SubstituteScope where
  | beginningWith (start : String)
  | named (name : String)
  /-- Only calls without a resource. -/
  | unnamed
  | always
deriving DecidableEq

/-- Whether a case with that scope applies. -/
def SubstituteScope.applies : SubstituteScope → Option String → Bool
  | beginningWith start, resource => resource.any (Text.startsWith · start)
  | named name, resource => resource == some name
  | unnamed, resource => resource.isNone
  | always, _ => true

/-- A case: where it applies, and its answer or none to decline. -/
structure SubstituteCase where
  scope : SubstituteScope
  answer : Option (Except String String)

/-- The answer of the first case that applies. -/
def SubstituteCase.substitute (cases : List SubstituteCase) : Substitute String String :=
  fun resource => (cases.find? (·.scope.applies resource)).bind (·.answer)

end ShadowTraffic
