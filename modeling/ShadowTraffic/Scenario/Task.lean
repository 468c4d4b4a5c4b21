import ShadowTraffic.Scenario.Contexts
import ShadowTraffic.Scenario.Guards
import ShadowTraffic.Scenario.Routers

/-! # Tasks

A task is a stack of activations, one for each body it is inside of, and a focus that says what it
does with the innermost one: it steps on, or is suspended somewhere. Tasks run on one thread. The
current one runs until it is suspended; those that can go on queue and are taken in order, and a
task that settles goes on when no other can.
-/

namespace ShadowTraffic.Scenario

/-- Tasks are told apart by number; the first runs the scenario itself. -/
abbrev TaskId := CallerId

/-- What a dispatch or an intercepted call needs for its end. -/
structure Envelope where
  registry : RegistryId
  /-- The registry of the service that the dispatcher belongs to, which lives as long. -/
  service : Option RegistryId := none
  dispatcher : DispatcherId
  ticket : Option (StackId × Ticket)
  phase : DispatchPhase String String
  business : Handle
  script : CallScript

inductive Ending where
  /-- The task has ended. -/
  | task
  | done (path : Path)
  /-- A panic is caught here. -/
  | caught (path : Path)
  /-- A panic ends the thread, and no span of the caller is known there. -/
  | thread (path : Path)
  | guarded (path : Path) (stack : StackId) (ticket : Ticket)
  /-- A call has run. -/
  | call (path : Path) (e : Envelope)

structure Activation where
  ending : Ending
  /-- What the paths of its steps begin with. -/
  path : Path
  /-- The place of the next step. -/
  next : Nat := 0
  rest : List Step
  frame : Option FrameId := none
  span : Option SpanId := none

inductive FetchUse where
  /-- It is the answer of a step, and may be named. -/
  | step (path : Path) (keptAs : Option String)
  /-- The innermost call is to be routed by it. -/
  | lookup

structure Fetching where
  registry : RegistryId
  factory : FactoryId
  request : Request
  use : FetchUse
  phase : FetchPhase
  /-- The number of the build in progress, if it has begun. -/
  build : Option Nat

inductive Focus where
  | stepping
  | waiting (path : Path) (gate : String)
  | joining (path : Path) (other : TaskId)
  | settling (path : Path)
  | fetching (f : Fetching)

structure Task where
  activations : List Activation
  focus : Focus := .stepping
  cancelled : Bool := false
  ended : Option TaskEnd := none
  joiners : List TaskId := []

structure Machine where
  world : World := {}
  tasks : Array Task := #[]
  /-- Names of the tasks to join. -/
  jobs : Dictionary TaskId := .empty
  current : Option TaskId := none
  /-- Tasks that can go on, in order. -/
  ready : List TaskId := []
  /-- Tasks that go on when no other can, in order. -/
  settling : List TaskId := []
  record : Record := {}

/-! ## Places and references -/

/-- The span around the innermost of some activations, on its own thread. -/
def Activation.span? : List Activation → Option SpanId
  | [] => none
  | a :: rest =>
    match a.span, a.ending with
    | some id, _ => some id
    | none, .thread _ => none
    | none, _ => Activation.span? rest

def Activation.place (activations : List Activation) : Place where
  frame := activations.findSome? (·.frame)
  span := Activation.span? activations

def Task.registries (t : Task) : List RegistryId :=
  (match t.focus with
    | .fetching f => [f.registry]
    | _ => []) ++
  t.activations.flatMap fun a =>
    match a.ending with
    | .call _ e => e.registry :: e.service.toList
    | _ => []

/-- Undoes what an activation holds when it is left before its end. -/
def Ending.cleanUp (w : World) : Ending → World
  | .guarded _ stack t => w.dropTicket stack t
  | .call _ e =>
    match e.ticket with
    | some (stack, t) => w.dropTicket stack t
    | none => w
  | _ => w

def Ending.stopsPanic : Ending → Bool
  | .task | .caught _ | .thread _ => true
  | _ => false

namespace Machine

def task (m : Machine) (id : TaskId) : Task :=
  m.tasks[id]?.getD { activations := [], ended := some .done }

def modifyTask (m : Machine) (id : TaskId) (f : Task → Task) : Machine :=
  { m with tasks := m.tasks.modify id f }

def setFocus (m : Machine) (id : TaskId) (focus : Focus) : Machine :=
  m.modifyTask id fun t => { t with focus }

def place (m : Machine) (id : TaskId) : Place :=
  Activation.place (m.task id).activations

def push (m : Machine) (id : TaskId) (a : Activation) : Machine :=
  m.modifyTask id fun t => { t with activations := a :: t.activations, focus := .stepping }

def take (m : Machine) (effects : List Effect) : Machine :=
  { m with world := m.world.take effects }

def emit (m : Machine) (origin : Origin) (reply : Reply) : Machine :=
  let w := m.world.sweep (m.tasks.toList.flatMap Task.registries)
  { m with
    world := { w with reported := [] }
    record := { m.record with
      entries := m.record.entries.push { origin, reply, events := w.reported } } }

def answer (m : Machine) (path : Path) (reply : Reply) : Machine :=
  m.emit (.step path) reply

/-! ## Scheduling -/

def suspend (m : Machine) : Machine :=
  { m with current := none }

def wake (m : Machine) (id : TaskId) : Machine :=
  if (m.task id).ended.isSome || m.ready.contains id || m.current == some id then m
  else { m with ready := m.ready ++ [id] }

def wakeAll (m : Machine) (ids : List TaskId) : Machine :=
  ids.foldl wake m

/-- A task ends, and those that join it can go on. -/
def finish (m : Machine) (id : TaskId) (e : TaskEnd) : Machine :=
  let joiners := (m.task id).joiners
  let m := m.modifyTask id fun _ => { activations := [], ended := some e }
  ({ m with current := none, settling := m.settling.erase id }).wakeAll joiners

/-- The next task to run, if there is one. -/
def next? (m : Machine) : Option Machine :=
  match m.ready, m.settling with
  | id :: rest, _ => some { m with ready := rest, current := some id }
  | [], id :: rest => some { m with settling := rest, current := some id }
  | [], [] => none

/-! ## Leaving bodies early -/

def abandonFocus (m : Machine) (id : TaskId) : Machine :=
  match (m.task id).focus with
  | .fetching f =>
    let s := Fetch.abandon (m.world.registry f.registry) id f.phase
    { m with world := m.world.takeStretch f.registry s }.wakeAll s.woken
  | _ => m

/-- A panic leaves bodies up to the first that stops it. -/
def panics (m : Machine) (id : TaskId) (message : String) : Machine :=
  let m := m.abandonFocus id
  let activations := (m.task id).activations
  let left := activations.takeWhile fun (a : Activation) => !a.ending.stopsPanic
  let m := { m with world := left.foldl (fun w (a : Activation) => a.ending.cleanUp w) m.world }
  match activations.drop left.length with
  | [] => m.finish id (.panicked message)
  | a :: rest =>
    let m := m.modifyTask id fun t => { t with activations := rest, focus := .stepping }
    match a.ending with
    | .caught path | .thread path => m.answer path (.panicked (some message))
    | _ => m.finish id (.panicked message)

def cancel (m : Machine) (id : TaskId) : Machine :=
  let m := m.abandonFocus id
  let world := (m.task id).activations.foldl (fun w (a : Activation) => a.ending.cleanUp w) m.world
  { m with world }.finish id .cancelled

end Machine

end ShadowTraffic.Scenario
