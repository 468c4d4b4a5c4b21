import ShadowTraffic.Routing.Dispatcher

/-! # A dispatch in phases

A dispatch can be suspended twice: while the mediator of its resource is looked up, and while its
call runs. In between it moves from phase to phase: `start` judges the call, `found` takes the
mediator that the look-up gave, and `finish` turns the call's own result into that of the dispatch.
-/

namespace ShadowTraffic

inductive DispatchPhase (α ε : Type) where
  /-- The mediator of the resource is looked up. -/
  | consulting
  /-- The call runs on a target; behind a look-up, with the identity of the mediator. -/
  | calling (route : Route) (target : Target) (mediator : Option Identity)
  | ended (result : Except (DispatchError ε) (Dispatched α))
deriving Inhabited

namespace Dispatcher

variable {α ε : Type}

def answered : Except ε α → Except (DispatchError ε) (Dispatched α)
  | .ok value => .ok ⟨value, .mock⟩
  | .error e => .error (.substituted e)

def isFailure : Except ε α → Bool
  | .ok _ => false
  | .error _ => true

/-- The first phase of a dispatch, inside a dispatch span if there is one. -/
def start (d : Dispatcher) (rules : Rules) (t : TrafficContext) (resource : Option String)
    (substitute : Option (Substitute α ε)) (span : Option SpanId) :
    DispatchPhase α ε × List Effect :=
  match d.judge rules t resource substitute with
  | .business => (.calling .business .business none, routed span .business)
  | .reject decidedBy =>
    (.ended (.error .switchedOff),
      .noticed (.rejected resource decidedBy) :: routed span .rejected)
  | .whitelisted name =>
    (.calling .whitelisted .business none, .noticed (.whitelisted name) :: routed span .whitelisted)
  | .answer a =>
    (.ended (answered a), .noticed (.substituted resource (isFailure a)) :: routed span .mock)
  | .consult => (.consulting, [])

/-- The first phase of an intercepted call, and its dispatch span. A nested attempt runs its call
untouched; an accepted one is dispatched inside a span of its own. -/
def mediate (d : Dispatcher) (rules : Rules) (t : TrafficContext) (boundary : String)
    (resource : Option String) (substitute : Option (Substitute α ε)) (entered : Bool)
    (around : Option SpanId) (fresh : SpanId) :
    DispatchPhase α ε × Option SpanId × List Effect :=
  if entered then
    let (phase, effects) := d.start rules t resource substitute (some fresh)
    (phase, some fresh, .opened fresh (.dispatch boundary resource) :: effects)
  else (.calling .reentrant .business none, none, routed around .reentrant)

def found (d : Dispatcher) (m : Mediator) (span : Option SpanId) :
    DispatchPhase α ε × List Effect :=
  let t := target m
  (.calling (targetRoute t) t (some m.identity),
    d.targetNotices m ++ routed span (targetRoute t))

def finish (route : Route) (target : Target) (mediator : Option Identity) :
    Except ε α → Except (DispatchError ε) (Dispatched α) × List Effect
  | .ok value => (.ok ⟨value, route⟩, [])
  | .error e =>
    match target, mediator with
    | .shadow _, some identity =>
      (.error (.shadow identity e), [.noticed (.shadowCallFailed identity)])
    | _, _ => (.error (.business e), [])

end Dispatcher

end ShadowTraffic
