import ShadowTraffic.Proofs.Registry.Fillings
import ShadowTraffic.Routing.Dispatch
import ShadowTraffic.Scope

/-! # A mediation service in use

Callers have calls intercepted, use the registry by hand, and flip the switches, interleaved where
they are suspended. An intercepted call is judged at once; it may look up its mediator, which is a
fetch of its caller; its closure then runs and may take any number of other steps. A call inside
another one's closure is a caller of its own on the same scope stack.
-/

namespace ShadowTraffic

/-- A call to be intercepted, and where it is made. -/
structure Interception (α ε : Type) where
  /-- The scope stack of the logical call. -/
  stack : Nat
  boundary : String
  policy : Option Policy := none
  resource : Option String := none
  config : Descriptor
  business : Handle
  substitute : Option (Substitute α ε) := none
  /-- The current context. -/
  traffic : TrafficContext := {}
  /-- The span that the caller is in. -/
  around : Option SpanId := none

/-- What an intercepted call asks the registry for. -/
def Interception.request? {α ε : Type} (x : Interception α ε) : Except IdentityError Request :=
  x.config.resolve.map fun identity => { identity, config := x.config, business := x.business }

/-- An intercepted call under way. -/
structure Call (α ε : Type) where
  interception : Interception α ε
  ticket : Ticket
  span : Option SpanId
  phase : DispatchPhase α ε

structure Service (α ε : Type) where
  shared : Shared := {}
  dispatcher : Dispatcher
  rules : Rules
  /-- For calls that name none. -/
  policy : Policy
  scopes : Nat → Scopes := fun _ => {}
  calls : CallerId → Option (Call α ε) := fun _ => none

inductive ServiceAction (α ε : Type) where
  | intercept (x : Interception α ε)
  /-- An operation on the registry goes on; it may be the look-up of a call. -/
  | registry (a : Action)
  /-- The closure has ended. -/
  | finish (result : Except ε α)
  /-- The caller goes away while the closure runs. -/
  | abandon
  | setEnabled (enabled : Bool)
  | setWhitelist (resources : List String)
  | reload (rules : Rules)

/-- What an action comes to. -/
structure Progress (α ε : Type) where
  service : Service α ε
  /-- The stretch on the registry. -/
  stretch : Option Transition := none
  /-- The call whose closure is started now. -/
  started : Option (Call α ε) := none
  /-- What an intercepted call gives back. -/
  returned : Option (Except (DispatchError ε) (Dispatched α)) := none
  effects : List Effect := []

/-- One action carried out. -/
structure ServiceTransition (α ε : Type) where
  before : Service α ε
  caller : CallerId
  action : ServiceAction α ε
  progress : Progress α ε

namespace Service

variable {α ε : Type}

/-- A call ends, and with it the attempt of its ticket. -/
def leave (s : Service α ε) (c : CallerId) (call : Call α ε) : Progress α ε :=
  let stack := call.interception.stack
  let (left, effects) := (s.scopes stack).exit call.ticket
  { service := { s with
      calls := Function.update s.calls c none
      scopes := Function.update s.scopes stack left }
    effects }

/-- A call enters its phase: it is suspended there, or has ended. -/
def enter (s : Service α ε) (c : CallerId) (call : Call α ε) : Progress α ε :=
  let suspended := { s with calls := Function.update s.calls c (some call) }
  match call.phase with
  | .consulting => { service := suspended }
  | .calling .. => { service := suspended, started := some call }
  | .ended result => { s.leave c call with returned := some result }

/-- The call enters the phase that a mediator decides. -/
def decided (s : Service α ε) (c : CallerId) (call : Call α ε) (m : Mediator) : Progress α ε :=
  let (phase, effects) := s.dispatcher.found m call.span
  let p := s.enter c { call with phase }
  { p with effects := effects ++ p.effects }

/-- What a stretch of a call's look-up leads to. -/
def settled (s : Service α ε) (c : CallerId) (call : Call α ε) : Outcome → Progress α ε
  | .returned (.fetched _ slot) =>
    match s.shared.registry.mediator? slot with
    | some m => s.decided c call m
    | none => s.enter c call
  | .abandoned _ => s.leave c call
  | _ => s.enter c call

/-- A stretch of a call's look-up has been taken. -/
def lookedUp (s : Service α ε) (c : CallerId) (call : Call α ε) (t : Transition) :
    Progress α ε :=
  let p := { s with shared := t.after }.settled c call t.outcome
  { p with stretch := some t, effects := t.effects ++ p.effects }

/-- An interception enters its boundary and its first phase. -/
def begun (s : Service α ε) (x : Interception α ε) : Service α ε × Call α ε × List Effect :=
  let (ticket, entered) := (s.scopes x.stack).enter x.boundary (x.policy.getD s.policy)
  let (phase, span, effects) := s.dispatcher.mediate s.rules x.traffic x.boundary x.resource
    x.substitute ticket.entered x.around s.shared.spans
  ({ s with
      scopes := Function.update s.scopes x.stack entered
      shared := { s.shared with spans := s.shared.spans + 1 } },
    { interception := x, ticket, span, phase },
    effects)

/-- A call is intercepted. -/
def intercept (s : Service α ε) (c : CallerId) (x : Interception α ε) : Option (Progress α ε) :=
  let (s, call, effects) := s.begun x
  let p := match call.phase with
    | .consulting =>
      match x.request? with
      | .error e => some (s.enter c { call with phase := .ended (.error (.configuration e)) })
      | .ok q => (s.shared.step c (.fetch q)).map (s.lookedUp c call)
    | _ => some (s.enter c call)
  p.map fun p => { p with effects := effects ++ p.effects }

/-- What an action leads to, if it fits where the caller stands. -/
def progress? (s : Service α ε) (c : CallerId) : ServiceAction α ε → Option (Progress α ε)
  | .intercept x =>
    match s.calls c, s.shared.ongoing c with
    | none, none => s.intercept c x
    | _, _ => none
  | .registry a =>
    match s.calls c with
    | none =>
      (s.shared.step c a).map fun t =>
        { service := { s with shared := t.after }, stretch := some t, effects := t.effects }
    | some call =>
      match call.phase with
      | .consulting => (s.shared.step c a).map (s.lookedUp c call)
      | _ => none
  | .finish result =>
    match s.calls c with
    | some call =>
      match call.phase with
      | .calling route target mediator =>
        let (result, effects) := Dispatcher.finish route target mediator result
        let p := s.leave c call
        some { p with returned := some result, effects := effects ++ p.effects }
      | _ => none
    | none => none
  | .abandon =>
    match s.calls c with
    | some call =>
      match call.phase with
      | .calling .. => some (s.leave c call)
      | _ => none
    | none => none
  | .setEnabled enabled =>
    let (dispatcher, effects) := s.dispatcher.setEnabled enabled
    some { service := { s with dispatcher }, effects }
  | .setWhitelist resources =>
    let (dispatcher, effects) := s.dispatcher.setWhitelist resources
    some { service := { s with dispatcher }, effects }
  | .reload rules =>
    some {
      service := { s with rules }
      effects := [.noticed (.rulesReloaded rules.markerKey rules.detectors.length)] }

/-- Carries out an action. -/
def step (s : Service α ε) (c : CallerId) (a : ServiceAction α ε) :
    Option (ServiceTransition α ε) :=
  (s.progress? c a).map fun p => { before := s, caller := c, action := a, progress := p }

def system : System (Service α ε) (CallerId × ServiceAction α ε) (ServiceTransition α ε) where
  step s e := s.step e.1 e.2
  after t := t.progress.service

/-- Carries out a schedule. -/
def run (s : Service α ε) (schedule : List (CallerId × ServiceAction α ε)) :
    Run (Service α ε) (ServiceTransition α ε) :=
  system.run s schedule

end Service

end ShadowTraffic
