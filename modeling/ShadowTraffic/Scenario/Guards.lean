import ShadowTraffic.Scenario.World

/-! # Commands on the guard

What a scenario does with scope stacks by hand. Every answer comes with what can be seen of the
boundary afterwards.
-/

namespace ShadowTraffic.Scenario.ScopeCommand

/-- An answer with what can now be seen of a boundary. -/
def seen (stack : StackId) (boundary : String) (answer : Reply) : Act Reply := do
  let s := (← Act.world).scopes stack
  pure (.guard answer (s.state boundary) (s.depth boundary))

/-- Drops the ticket of a name, if there is one. -/
def dropNamed (t : Option (StackId × Ticket)) : Act Unit :=
  match t with
  | some (stack, t) => modify (·.dropTicket stack t)
  | none => pure ()

def run (here : Place) : ScopeCommand → Act Reply
  | tryEnter stack boundary policy => do
    let stack ← Act.stack here stack
    let boundary ← boundary
    let policy ← policy
    let (entered, w) := (← Act.world).tryEnter stack boundary policy
    set w
    seen stack boundary (.flag entered)
  | canLeave stack boundary policy => do
    let stack ← Act.stack here stack
    let boundary ← boundary
    let policy ← policy
    let (mayLeave, s) := ((← Act.world).scopes stack).canLeave boundary policy
    modify (·.setScopes stack s)
    seen stack boundary (.flag mayLeave)
  | leave stack boundary policy => do
    let stack ← Act.stack here stack
    let boundary ← boundary
    let policy ← policy
    match ((← Act.world).scopes stack).leave boundary policy with
    | .ok s =>
      modify (·.setScopes stack s)
      seen stack boundary .ok
    | .error e =>
      Act.report [.noticed (.unbalancedExit boundary policy), .counted (.misused boundary)]
      seen stack boundary (.notEntered e)
  | state stack boundary => do
    let stack ← Act.stack here stack
    seen stack (← boundary) .none
  | enter stack boundary policy ticket => do
    let stack ← Act.stack here stack
    let boundary ← boundary
    let policy ← policy
    let name ← ticket
    let (t, w) := (← Act.world).enter stack boundary policy
    set { w with tickets := w.tickets.insert name (stack, t) }
    dropNamed (w.tickets.get? name)
    seen stack boundary (.ticket t)
  | dropTicket ticket => do
    let (stack, t) ← Act.known "ticket" World.tickets ticket
    let name ← ticket
    modify fun w => { w with tickets := w.tickets.erase name }
    dropNamed (some (stack, t))
    pure (.left t.boundary)
  | share stack name => do
    let id ← Act.stack here stack
    let name ← name
    modify fun w => { w with stackNames := w.stackNames.insert name id }
    pure .ok

end ShadowTraffic.Scenario.ScopeCommand
