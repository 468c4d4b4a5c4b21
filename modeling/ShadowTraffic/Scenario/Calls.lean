import ShadowTraffic.Scenario.Task

/-! # Calls of a scenario

The steps that go into the library and may be suspended there: asking a registry for a mediator, a
dispatch, and an intercepted call. Each stretch between two suspensions is one function here.
-/

namespace ShadowTraffic.Scenario

/-! ## Interception -/

/-- What an intercepted call comes with. -/
structure CallArguments where
  service : Service
  factory : FactoryId
  config : Descriptor
  boundary : String
  policy : Policy
  substitute : Option (Substitute String String)

/-- An intercepted call after its attempt to enter its boundary, in its first phase. -/
structure Intercepted where
  frame : FrameId
  stack : StackId
  ticket : Ticket
  phase : DispatchPhase String String
  span : Option SpanId

/-- A call is intercepted. Outside a frame it gets a frame of its own. -/
def World.intercept (w : World) (here : Place) (x : CallArguments) (resource : Option String) :
    Intercepted × World :=
  let (frame, w) := match here.frame with
    | some id => (id, w)
    | none => w.newFrame {}
  let inside : Place := { here with frame := some frame }
  let stack := w.currentStack inside
  let (ticket, w) := w.enter stack x.boundary x.policy
  let d := w.dispatcher x.service.dispatcher
  let traffic := (w.current? inside).getD {}
  let (fresh, w) := w.freshSpan
  let (phase, span, effects) :=
    d.mediate (w.rules d.propagator) traffic x.boundary resource x.substitute ticket.entered
      here.span fresh
  ({ frame, stack, ticket, phase, span }, w.take effects)

namespace Machine

/-! ## The call itself -/

def targetHandle (business : Handle) : Target → Handle
  | .business => business
  | .shadow h => h

/-- Replaces the phase of a task's innermost call; one that has ended runs no body. -/
def setPhase (phase : DispatchPhase String String) : List Activation → List Activation
  | [] => []
  | a :: rest =>
    match a.ending with
    | .call path e =>
      let body := match phase with
        | .ended _ => []
        | _ => a.rest
      { a with ending := .call path { e with phase }, rest := body } :: rest
    | _ => a :: rest

/-- A task's innermost call enters a phase behind its look-up, or without one. -/
def enterPhase (m : Machine) (id : TaskId) (path : Path) (business : Handle)
    (phase : DispatchPhase String String) : Machine :=
  let m := m.modifyTask id fun t =>
    { t with activations := setPhase phase t.activations, focus := .stepping }
  match phase with
  | .calling _ target _ => m.emit (.call path) (.called target (targetHandle business target))
  | _ => m

/-- The look-up of a task's innermost call gave a mediator. -/
def found (m : Machine) (id : TaskId) (mediator : Mediator) : Machine :=
  match (m.task id).activations with
  | { ending := .call path e, .. } :: _ =>
    let (phase, effects) := (m.world.dispatcher e.dispatcher).found mediator (m.place id).span
    (m.take effects).enterPhase id path e.business phase
  | _ => m

/-- A call on a handle: it fails, or writes a row and tells how many there are. -/
def callRuns (w : World) (h : Handle) (script : CallScript) : Except String String × World :=
  match script.fail with
  | some message => (.error message, w)
  | none =>
    let (rows, w) := w.write h script.write
    (.ok (h ++ ":" ++ toString rows), w)

/-- The body of a call has run: what the call itself does, and how the dispatch ends. -/
def callEnds (m : Machine) (path : Path) (e : Envelope) : Machine :=
  let (result, m) := match e.phase with
    | .calling route target mediator =>
      let handle := targetHandle e.business target
      let (outcome, w) := callRuns m.world handle e.script
      let (result, effects) := Dispatcher.finish route target mediator outcome
      (result, { m with world := w.take effects })
    | .ended result => (result, m)
    | .consulting => (.error .switchedOff, m)
  { m with world := (Ending.call path e).cleanUp m.world }.answer path (.dispatched result)

/-! ## Asking for a mediator -/

/-- Takes in a stretch: the task is suspended, goes on by itself, or has its mediator. -/
def takeFetch (m : Machine) (id : TaskId) (f : Fetching) (s : Stretch FetchOutcome) : Machine :=
  let m := { m with world := m.world.takeStretch f.registry s }.wakeAll s.woken
  match s.outcome with
  | .pending phase =>
    let m := m.setFocus id (.fetching { f with phase, build := none })
    match phase with
    | .waiting _ => m.suspend
    | _ => m
  | .got slot =>
    let m := m.setFocus id .stepping
    match f.use, m.world.mediator? (f.registry, slot) with
    | .step path keptAs, mediator =>
      { m with world := m.world.keepMediator keptAs (f.registry, slot) }.answer path
        (.mediator mediator)
    | .lookup, some mediator => m.found id mediator
    | .lookup, none => m

def startFetch (m : Machine) (id : TaskId) (registry : RegistryId) (factory : FactoryId)
    (request : Request) (use : FetchUse) : Machine :=
  let (fresh, w) := m.world.freshSpan
  let s := Fetch.start (w.registry registry) id request fresh
  takeFetch { m with world := w } id
    { registry, factory, request, use, phase := .waiting 0, build := none } s

/-- The outcome of a build by its number; the last one repeats, and without any there is a
shadow. -/
def outcomeOf (outcomes : List BuildOutcome) (number : Nat) : BuildOutcome :=
  (outcomes[number]? <|> outcomes.getLast?).getD (.fresh false)

def buildEnds (m : Machine) (id : TaskId) (f : Fetching) (slot : SlotId) (span : SpanId)
    (p : Provision) : Machine :=
  let (fresh, w) := m.world.freshSpan
  takeFetch { m with world := w } id f
    (Fetch.built (w.registry f.registry) id f.request fresh slot span p)

/-- A scripted build goes on behind its gate. -/
def actOn (m : Machine) (id : TaskId) (f : Fetching) (slot : SlotId) (span : SpanId)
    (factory : String) (number : Nat) : BuildOutcome → Machine
  | .fresh closeFails =>
    let h := factory ++ "#" ++ toString number
    let w := m.world.setHandle h { m.world.handle h with closeFails }
    buildEnds { m with world := w } id f slot span (.ok (some h))
  | .shared h => m.buildEnds id f slot span (.ok (some h))
  | .absent => m.buildEnds id f slot span (.ok none)
  | .failed e => m.buildEnds id f slot span (.error e)
  | .panics message => m.panics id message

/-- A task queues at a gate and is suspended, unless the gate is open. -/
def queueAt (m : Machine) (id : TaskId) (gate : String) : Machine :=
  let g := m.world.gate gate
  if g.isOpen then m
  else { m with world := m.world.setGate gate { g with queue := g.queue ++ [id] } }.suspend

/-- A factory builds for a task: at once, or once its gate is open. -/
def build (m : Machine) (id : TaskId) (f : Fetching) (slot : SlotId) (span : SpanId) : Machine :=
  match m.world.factory f.factory with
  | .noShadow => m.buildEnds id f slot span (.ok none)
  | .scripted name gate outcomes builds =>
    match f.build with
    | none =>
      let w := { m.world with
        factories := m.world.factories.setIfInBounds f.factory
          (.scripted name gate outcomes (builds + 1)) }
      let m := { m with world := w }.emit .build (.building name builds f.request.config)
      let m := m.setFocus id (.fetching { f with build := some builds })
      match gate with
      | some gate => m.queueAt id gate
      | none => m
    | some number => m.actOn id f slot span name number (outcomeOf outcomes number)

def fetchOn (m : Machine) (id : TaskId) (f : Fetching) : Machine :=
  match f.phase with
  | .building slot span => m.build id f slot span
  | .waiting slot =>
    let (fresh, w) := m.world.freshSpan
    takeFetch { m with world := w } id f
      (Fetch.resume (w.registry f.registry) id f.request fresh slot)
  | .closing _ mediator =>
    let (failure, w) := m.world.closeHandle mediator.shadow
    let (fresh, w) := w.freshSpan
    takeFetch { m with world := w } id f
      (Fetch.closed (w.registry f.registry) id f.request fresh mediator failure)

/-! ## Steps -/

/-- Reads the arguments of a step and goes on with them, unless the step is refused. -/
def attempt {α : Type} (m : Machine) (path : Path) (act : Act α) (go : α → Machine → Machine) :
    Machine :=
  match act.run m.world with
  | (.ok a, world) => go a { m with world }
  | (.error r, world) => { m with world }.answer path (.refused r)

def factoryNamed (name : Arg String) : Act FactoryId :=
  Act.known "factory" World.factoryNames name

/-- An optional argument, or a default. -/
def optional {α : Type} (default : α) : Option (Act α) → Act α
  | none => pure default
  | some a => a

/-- A context by an optional name. -/
def contextOr (name : Option (Arg String)) : Act TrafficContext :=
  optional {} (name.map ContextCommand.named)

/-- An optional substitute. -/
def substituteOf (recipe : Option (Arg SubstituteRecipe)) :
    Act (Option (Substitute String String)) :=
  match recipe with
  | none => pure none
  | some r => do pure (some (← r).make)

def fetchStep (m : Machine) (id : TaskId) (path : Path) (s : FetchStep) : Machine :=
  let act : Act (RegistryId × FactoryId × Descriptor × Descriptor) := do
    let registry ← RegistryCommand.named s.registry
    let factory ← factoryNamed s.factory
    let config ← s.config
    let source ← s.identityOf.getD (.ok config)
    pure (registry, factory, config, source)
  m.attempt path act fun (registry, factory, config, source) m =>
    match source.resolve with
    | .error e => m.answer path (.unresolved e)
    | .ok identity =>
      m.startFetch id registry factory { identity, config, business := s.business }
        (.step path s.keptAs)

def consult (m : Machine) (id : TaskId) (path : Path) (registry : RegistryId)
    (factory : FactoryId) (config : Descriptor) (business : Handle) : Machine :=
  match config.resolve with
  | .error e => m.enterPhase id path business (.ended (.error (.configuration e)))
  | .ok identity =>
    m.startFetch id registry factory { identity, config, business } .lookup

def dispatchStep (m : Machine) (id : TaskId) (path : Path) (s : DispatchStep)
    (body : List Step) : Machine :=
  let act := do
    let dispatcher ← RouterCommand.named s.dispatcher
    let registry ← RegistryCommand.named s.registry
    let factory ← factoryNamed s.factory
    let config ← s.config
    let substitute ← substituteOf s.substitute
    let traffic ← contextOr s.context
    let mediator ← optional none (s.mediator.map fun name => do
      pure (some (← RegistryCommand.place "mediator" (.ok name))))
    pure (dispatcher, registry, factory, config, substitute, traffic, mediator)
  m.attempt path act fun (dispatcher, registry, factory, config, substitute, traffic, mediator) m =>
    let d := m.world.dispatcher dispatcher
    let (phase, effects) :=
      d.start (m.world.rules d.propagator) traffic s.resource substitute (m.place id).span
    let m := (m.take effects).push id {
      ending := .call path {
        registry
        service := m.world.serviceRegistry? dispatcher
        dispatcher
        ticket := none
        phase
        business := s.business
        script := s.script }
      path := path ++ "."
      rest := body }
    match phase with
    | .consulting =>
      let m := m.emit (.lookup path) .none
      match mediator with
      | none => m.consult id path registry factory config s.business
      | some place =>
        match m.world.mediator? place with
        | some mediator => m.found id mediator
        | none => m
    | phase => m.enterPhase id path s.business phase

/-- The arguments of a step's call; its service has a policy for calls that name none. -/
def callArguments (s : InterceptStep) : Act CallArguments := do
  let service ← Act.known "svc" World.services s.service
  let factory ← factoryNamed s.factory
  let config ← s.config
  let boundary ← s.boundary
  let policy ← s.policy.getD (.ok service.policy)
  let substitute ← substituteOf s.substitute
  pure { service, factory, config, boundary, policy, substitute }

/-- A step's call is intercepted by a service. -/
def interceptStep (m : Machine) (id : TaskId) (path : Path) (s : InterceptStep)
    (body : List Step) : Machine :=
  m.attempt path (callArguments s) fun x m =>
    let (call, w) := m.world.intercept (m.place id) x s.resource
    let m := { m with world := w }.push id {
      ending := .call path {
        registry := x.service.registry
        dispatcher := x.service.dispatcher
        ticket := some (call.stack, call.ticket)
        phase := call.phase
        business := s.business
        script := s.script }
      path := path ++ "."
      rest := body
      frame := some call.frame
      span := call.span }
    match call.phase with
    | .consulting => m.consult id path x.service.registry x.factory x.config s.business
    | phase => m.enterPhase id path s.business phase

end Machine

end ShadowTraffic.Scenario
