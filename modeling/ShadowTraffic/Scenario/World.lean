import ShadowTraffic.Registry.Operation
import ShadowTraffic.Scenario.Reply
import ShadowTraffic.Scenario.Step

/-! # The world of a scenario

Everything that steps make, by name, and what the library reported and counted. Things that
several names or tasks can share are kept in arrays, and their names stand for places in them.
-/

namespace ShadowTraffic.Scenario

/-- Places of rules; the first are those of the shared default propagator. -/
abbrev PropagatorId := Nat

/-- Places of scope stacks; the first is the thread's. -/
abbrev StackId := Nat

abbrev FrameId := Nat

abbrev RegistryId := Nat

abbrev DispatcherId := Nat

abbrev FactoryId := Nat

/-- A trace id by its number: a random identifier of version 4 whose last twelve digits count. -/
def traceId (n : Nat) : String :=
  let digits := Text.hex n
  "5f0c2a9e-71d4-4b6c-8e35-" ++ String.ofList (List.replicate (12 - digits.length) '0') ++ digits

structure CallFrame where
  traffic : TrafficContext := {}
  scopes : StackId
deriving Inhabited

/-- Composes a registry, a dispatcher and the guard's default. -/
structure Service where
  registry : RegistryId
  dispatcher : DispatcherId
  policy : Policy

/-- What calls wrote to a handle, and how often it was closed. -/
structure HandleState where
  rows : Array String := #[]
  closes : Nat := 0
  closeFails : Bool := false
deriving Inhabited

/-- A gate, once open, is open forever; until then tasks queue at it. -/
structure Gate where
  isOpen : Bool := false
  queue : List CallerId := []
deriving Inhabited

/-- A body to run later in a snapshot of a frame. -/
structure Continuation where
  frame : FrameId
  path : Path
  body : List Step

structure World where
  contexts : Dictionary TrafficContext := .empty
  propagators : Array Rules := #[Rules.default]
  propagatorNames : Dictionary PropagatorId := Dictionary.ofList [("default", 0)]
  carriers : Dictionary Carrier := .empty
  scopeStacks : Array Scopes := #[{}]
  stackNames : Dictionary StackId := .empty
  tickets : Dictionary (StackId × Ticket) := .empty
  frames : Array CallFrame := #[]
  factories : Array Factory := #[]
  factoryNames : Dictionary FactoryId := .empty
  handles : Dictionary HandleState := .empty
  registries : Array Registry := #[]
  registryNames : Dictionary RegistryId := .empty
  /-- Registries whose last reference has gone. -/
  dropped : List RegistryId := []
  mediatorNames : Dictionary (RegistryId × SlotId) := .empty
  dispatchers : Array Dispatcher := #[]
  dispatcherNames : Dictionary DispatcherId := .empty
  services : Dictionary Service := .empty
  gates : Dictionary Gate := .empty
  callbacks : Dictionary Continuation := .empty
  futures : Dictionary Continuation := .empty
  /-- How many trace ids were drawn. -/
  traceIds : Nat := 0
  /-- How many spans were opened. -/
  spans : Nat := 0
  metrics : Metrics := {}
  /-- What was reported since the last entry. -/
  reported : List Effect := []

/-- Where a step stands: the frame of its call and the span around it, if any. -/
structure Place where
  frame : Option FrameId := none
  span : Option SpanId := none

/-- Reads and changes the world, or refuses. -/
abbrev Act := ExceptT Refusal (StateM World)

namespace World

/-- Whether an effect is reported or only counted. -/
def isReport : Effect → Bool
  | .noticed _ | .opened .. | .recorded .. => true
  | _ => false

def take (w : World) (effects : List Effect) : World :=
  { w with
    metrics := effects.foldl Metrics.record w.metrics
    reported := w.reported ++ effects.filter isReport }

def rules (w : World) (id : PropagatorId) : Rules :=
  w.propagators[id]?.getD Rules.default

def scopes (w : World) (id : StackId) : Scopes :=
  w.scopeStacks[id]?.getD {}

def setScopes (w : World) (id : StackId) (s : Scopes) : World :=
  { w with scopeStacks := w.scopeStacks.setIfInBounds id s }

def newStack (w : World) : StackId × World :=
  (w.scopeStacks.size, { w with scopeStacks := w.scopeStacks.push {} })

def registry (w : World) (id : RegistryId) : Registry :=
  w.registries[id]?.getD {}

def setRegistry (w : World) (id : RegistryId) (r : Registry) : World :=
  { w with registries := w.registries.setIfInBounds id r }

def dispatcher (w : World) (id : DispatcherId) : Dispatcher :=
  w.dispatchers[id]?.getD default

def factory (w : World) (id : FactoryId) : Factory :=
  w.factories[id]?.getD .noShadow

/-- The state of a handle; one never used is fresh. -/
def handle (w : World) (h : Handle) : HandleState :=
  (w.handles.get? h).getD {}

def setHandle (w : World) (h : Handle) (s : HandleState) : World :=
  { w with handles := w.handles.insert h s }

/-- The gate of a name; one never used is closed. -/
def gate (w : World) (name : String) : Gate :=
  (w.gates.get? name).getD {}

def setGate (w : World) (name : String) (g : Gate) : World :=
  { w with gates := w.gates.insert name g }

def freshSpan (w : World) : SpanId × World :=
  (w.spans, { w with spans := w.spans + 1 })

/-! ## Frames -/

def frame? (w : World) (here : Place) : Option CallFrame :=
  here.frame.bind (w.frames[·]?)

def current? (w : World) (here : Place) : Option TrafficContext :=
  (w.frame? here).map (·.traffic)

/-- The stack of the current call, or the thread's outside any frame. -/
def currentStack (w : World) (here : Place) : StackId :=
  match w.frame? here with
  | some f => f.scopes
  | none => 0

def addFrame (w : World) (f : CallFrame) : FrameId × World :=
  (w.frames.size, { w with frames := w.frames.push f })

def newFrame (w : World) (traffic : TrafficContext) : FrameId × World :=
  let (scopes, w) := w.newStack
  w.addFrame { traffic, scopes }

/-- A snapshot of the current frame: its context is copied and its stack shared. -/
def capture (w : World) (here : Place) : FrameId × World :=
  w.addFrame { traffic := (w.current? here).getD {}, scopes := w.currentStack here }

/-- Replaces the context of the current call, if there is one. -/
def setCurrent (w : World) (here : Place) (t : TrafficContext) : World :=
  match here.frame with
  | some id => { w with frames := w.frames.modify id fun f => { f with traffic := t } }
  | none => w

/-! ## Tickets -/

def dropTicket (w : World) (stack : StackId) (t : Ticket) : World :=
  let (s, effects) := (w.scopes stack).exit t
  (w.setScopes stack s).take effects

def skippedEffects (s : Scopes) (boundary : String) : List Effect :=
  [.noticed (.reentrantSkipped boundary (s.frame boundary).skipped)]

/-- An attempt to enter, with what it reports. -/
def tryEnter (w : World) (stack : StackId) (boundary : String) (policy : Policy) :
    Bool × World :=
  let (entered, s) := (w.scopes stack).tryEnter boundary policy
  (entered, (w.setScopes stack s).take (if entered then [] else skippedEffects s boundary))

def enter (w : World) (stack : StackId) (boundary : String) (policy : Policy) :
    Ticket × World :=
  let (entered, w) := w.tryEnter stack boundary policy
  (⟨boundary, policy, entered⟩, w)

/-! ## Handles -/

/-- Closes a handle; one that refuses counts the attempt all the same. -/
def closeHandle (w : World) (h : Option Handle) : Option ProvisionError × World :=
  match h with
  | none => (none, w)
  | some h =>
    let s := w.handle h
    (if s.closeFails then some (.connection (h ++ " will not close")) else none,
      w.setHandle h { s with closes := s.closes + 1 })

/-- Writes a row to a handle and gives the number of rows. -/
def write (w : World) (h : Handle) (row : String) : Nat × World :=
  let s := w.handle h
  (s.rows.size + 1, w.setHandle h { s with rows := s.rows.push row })

/-! ## References -/

/-- Whether a name or a service refers to a registry. -/
def isNamed (w : World) (id : RegistryId) : Bool :=
  w.registryNames.entries.any (·.2 == id) || w.services.entries.any (·.2.registry == id)

/-- The registry of the service that a dispatcher belongs to. -/
def serviceRegistry? (w : World) (id : DispatcherId) : Option RegistryId :=
  (w.services.entries.find? (·.2.dispatcher == id)).map (·.2.registry)

/-- Lets go of the registries that nothing refers to, given those that tasks still use. -/
def sweep (w : World) (used : List RegistryId) : World :=
  (List.range w.registries.size).foldl (fun w id =>
    if w.dropped.contains id || used.contains id || w.isNamed id then w
    else { w.take (w.registry id).dropEffects with dropped := id :: w.dropped }) w

end World

/-! ## Reading arguments -/

namespace Act

def world : Act World :=
  get

def bad {α : Type} (field : String) : Act α :=
  throw (.badInput field)

@[simp] theorem liftM_ok {α : Type} (a : α) : (liftM (Except.ok a : Arg α) : Act α) = pure a :=
  rfl

def known {α : Type} (field : String) (names : World → Dictionary α) (name : Arg String) :
    Act α := do
  match (names (← world)).get? (← name) with
  | some a => pure a
  | none => bad field

/-- The propagator of a name; without one it is the default. -/
def propagator (name : Option String) : Act PropagatorId :=
  known "prop" World.propagatorNames (.ok (name.getD "default"))

def rules (name : Option String) : Act Rules := do
  let id ← propagator name
  pure ((← world).rules id)

/-- The stack of a name, made when it is used first; without one it is that of the place. -/
def stack (here : Place) (name : Option String) : Act StackId := do
  let w ← world
  match name with
  | none | some "@current" => pure (w.currentStack here)
  | some name =>
    match w.stackNames.get? name with
    | some id => pure id
    | none =>
      let (id, w) := w.newStack
      set { w with stackNames := w.stackNames.insert name id }
      pure id

def report (effects : List Effect) : Act Unit :=
  modify (·.take effects)

end Act

end ShadowTraffic.Scenario
