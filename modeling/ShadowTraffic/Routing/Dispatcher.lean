import ShadowTraffic.Registry.Slots

/-! # Routing one call

The route of a call follows a table with a strict order of columns. Ordinary traffic goes to the
business handle. Test traffic is rejected while the switch is off; else a whitelisted resource
takes it as it is; else a substitute may answer it; else the resource's mediator decides between
its shadow and the business handle. Only the last step looks anything up, so a decision comes in
two parts: `judge` before the look-up and `target` after it.
-/

namespace ShadowTraffic

structure Dispatched (α : Type) where
  value : α
  route : Route
deriving DecidableEq

/-- Whether test traffic silently ran on production resources. -/
def Dispatched.isFallback {α : Type} (d : Dispatched α) : Bool :=
  d.route == .fallback

inductive DispatchError (ε : Type) where
  /-- The call failed on the business handle. -/
  | business (e : ε)
  /-- A call of test traffic failed on a shadow. -/
  | shadow (identity : Identity) (e : ε)
  | switchedOff
  /-- A substitute answered with a failure. -/
  | substituted (e : ε)
  | configuration (e : IdentityError)
deriving DecidableEq

namespace DispatchError

variable {ε : Type}

/-- The error as a person reads it, given how a call's own error reads. -/
def message (wording : ε → String) : DispatchError ε → String
  | business e => wording e
  | shadow identity _ => "Test-path failure on shadow resource " ++ identity.redacted
  | switchedOff => "Shadow routing is switched off; test traffic rejected"
  | substituted _ => "Substituted failure for test traffic"
  | configuration e => "Resource configuration error: " ++ e.message

/-- Whether a test run is misconfigured. -/
def isTestPath : DispatchError ε → Bool
  | shadow .. | switchedOff => true
  | _ => false

/-- The call's own error, if it has one. -/
def callError? : DispatchError ε → Option ε
  | business e => some e
  | shadow _ e => some e
  | substituted e => some e
  | _ => none

end DispatchError

/-- A substitute answers for a resource, or declines. -/
abbrev Substitute (α ε : Type) := Option String → Option (Except ε α)

structure Dispatcher where
  /-- Which propagator's rules it asks. -/
  propagator : Nat
  enabled : Bool
  flagFallback : Bool
  whitelist : Dictionary Unit
deriving DecidableEq, Inhabited

/-- What can be said about a call before its mediator is looked up. -/
inductive Decision (α ε : Type) where
  | business
  | reject (decidedBy : Option DetectorKind)
  | whitelisted (resource : String)
  | answer (a : Except ε α)
  | consult

inductive Target where
  | business
  | shadow (h : Handle)
deriving DecidableEq

namespace Dispatcher

variable {α ε : Type}

def ofSettings (propagator : Nat) (s : RoutingSettings) : Dispatcher where
  propagator := propagator
  enabled := s.enabled
  flagFallback := s.flagFallback
  whitelist := Rules.keySet s.whitelist

/-- Whether test traffic may reach a resource as it is. -/
def isWhitelisted (d : Dispatcher) (resource : String) : Bool :=
  d.whitelist.contains resource

/-- The table for calls that are neither whitelisted nor substituted. -/
def decide (d : Dispatcher) (marked hasShadow : Bool) : Route :=
  match marked, d.enabled, hasShadow with
  | false, _, _ => .business
  | true, false, _ => .rejected
  | true, true, false => .fallback
  | true, true, true => .shadow

/-- The whitelisted name of a call's resource, if it has one. -/
def whitelistedName? (d : Dispatcher) (resource : Option String) : Option String :=
  resource.filter d.isWhitelisted

def judge (d : Dispatcher) (rules : Rules) (t : TrafficContext) (resource : Option String)
    (substitute : Option (Substitute α ε)) : Decision α ε :=
  let detection := rules.detect t resource
  if !detection.marked then .business
  else if !d.enabled then .reject detection.decidedBy
  else
    match d.whitelistedName? resource with
    | some name => .whitelisted name
    | none =>
      match substitute.bind (· resource) with
      | some a => .answer a
      | none => .consult

def target (m : Mediator) : Target :=
  match m.liveShadow? with
  | some h => .shadow h
  | none => .business

/-- What a look-up's answer reports before the call runs. -/
def targetNotices (d : Dispatcher) (m : Mediator) : List Effect :=
  match target m with
  | .shadow _ => [.noticed (.routedToShadow m.identity)]
  | .business => if d.flagFallback then [.noticed (.passedThrough m.identity)] else []

def targetRoute : Target → Route
  | .shadow _ => .shadow
  | .business => .fallback

/-- The route of a decision is counted, and recorded on the dispatch span around it. -/
def routed (span : Option SpanId) (r : Route) : List Effect :=
  (match span with
    | some id => [Effect.recorded id (.route r)]
    | none => []) ++ [.counted (.dispatched r)]

/-- Flips the switch; only a change is reported. -/
def setEnabled (d : Dispatcher) (enabled : Bool) : Dispatcher × List Effect :=
  ({ d with enabled },
    if d.enabled == enabled then [] else [.noticed (.switchChanged enabled)])

def setWhitelist (d : Dispatcher) (resources : List String) : Dispatcher × List Effect :=
  let whitelist := Rules.keySet resources
  ({ d with whitelist }, [.noticed (.whitelistReplaced whitelist.size)])

end Dispatcher

end ShadowTraffic
