import ShadowTraffic.Scenario.Calls

/-! # Running a scenario

The machine makes small steps. Each begins or ends one step of the script, or takes a suspended
task one stretch further. A run makes them until the first task has ended or nothing can go on.
-/

namespace ShadowTraffic.Scenario

def Command.run (here : Place) : Command → Act Reply
  | .context c => c.run
  | .marker c => c.run
  | .carrier c => c.run
  | .scope c => c.run here
  | .frame c => c.run here
  | .registry c => c.run
  | .router c => c.run
  | .report c => c.run

namespace Machine

/-- A body of a step, below the step's path. -/
def body (path : Path) (ending : Ending) (steps : List Step) (frame : Option FrameId) :
    Activation :=
  { ending, path := path ++ ".", rest := steps, frame }

def captured (here : Place) : Act FrameId := do
  let (id, w) := (← Act.world).capture here
  set w
  pure id

def blockStep (m : Machine) (id : TaskId) (path : Path) (b : Block) (steps : List Step) :
    Machine :=
  let here := m.place id
  match b with
  | .withContext context =>
    m.attempt path (contextOr context) fun t m =>
      let (frame, w) := m.world.newFrame t
      { m with world := w }.push id (body path (.done path) steps (some frame))
  | .carry =>
    m.attempt path (captured here) fun frame m =>
      m.push id (body path (.done path) steps (some frame))
  | .catching => m.push id (body path (.caught path) steps none)
  | .guarded stack boundary policy =>
    let act := do
      let stack ← Act.stack here stack
      let boundary ← boundary
      pure (stack, boundary, ← policy)
    m.attempt path act fun (stack, boundary, policy) m =>
      let (ticket, w) := m.world.enter stack boundary policy
      if ticket.entered then
        { m with world := w }.push id (body path (.guarded path stack ticket) steps none)
      else
        { m with world := w.dropTicket stack ticket }.answer path (.ran false)
  | .bind name =>
    let act := do
      let name ← name
      let frame ← captured here
      modify fun w => { w with
        callbacks := w.callbacks.insert name { frame, path := path ++ ".", body := steps } }
    m.attempt path act fun _ m => m.answer path .kept
  | .carryLater name =>
    let act := do
      let name ← name
      let frame ← captured here
      modify fun w => { w with
        futures := w.futures.insert name { frame, path := path ++ ".", body := steps } }
    m.attempt path act fun _ m => m.answer path .kept
  | .spawn name carry =>
    let act := do
      let name ← name
      if carry then pure (name, some (← captured here)) else pure (name, none)
    m.attempt path act fun (name, frame) m =>
      let new := m.tasks.size
      let m := { m with
        tasks := m.tasks.push { activations := [body path .task steps frame] }
        jobs := m.jobs.insert name new
        ready := m.ready ++ [new] }
      m.answer path .spawned

def resume (m : Machine) (id : TaskId) (c : Continuation) (ending : Ending) : Machine :=
  m.push id { ending, path := c.path, rest := c.body, frame := some c.frame }

/-- Waits for another task, after cancelling it if that is wanted. -/
def join (m : Machine) (id : TaskId) (path : Path) (other : TaskId) (abort : Bool) : Machine :=
  let m := m.setFocus id (.joining path other)
  if (m.task other).ended.isSome then m
  else
    let m := m.modifyTask other fun t =>
      { t with joiners := t.joiners ++ [id], cancelled := t.cancelled || abort }
    (if abort then m.wake other else m).suspend

def taskStep (m : Machine) (id : TaskId) (path : Path) : TaskStep → Machine
  | .callback name thread =>
    m.attempt path (do
      let c ← Act.known "name" World.callbacks name
      let name ← name
      modify fun w => { w with callbacks := w.callbacks.erase name }
      pure c) fun c m => m.resume id c (if thread then .thread path else .done path)
  | .await name =>
    m.attempt path (do
      let c ← Act.known "name" World.futures name
      let name ← name
      modify fun w => { w with futures := w.futures.erase name }
      pure c) fun c m => m.resume id c (.done path)
  | .join name abort =>
    m.attempt path (do
      let name ← name
      match m.jobs.get? name with
      | some other => pure (name, other)
      | none => Act.bad "name") fun (name, other) m =>
        { m with jobs := m.jobs.erase name }.join id path other abort
  | .settle =>
    { m.setFocus id (.settling path) with settling := m.settling ++ [id] }.suspend
  | .wait gate =>
    m.attempt path gate fun gate m => (m.setFocus id (.waiting path gate)).queueAt id gate
  | .openGate gate =>
    m.attempt path gate fun gate m =>
      let queue := (m.world.gate gate).queue
      ({ m with world := m.world.setGate gate { isOpen := true } }.wakeAll queue).answer path .ok
  | .panics message => m.panics id message

def beginStep (m : Machine) (id : TaskId) (path : Path) : Step → Machine
  | .refused r => m.answer path (.refused r)
  | .command c => m.attempt path (c.run (m.place id)) fun reply m => m.answer path reply
  | .block b steps => m.blockStep id path b steps
  | .task t => m.taskStep id path t
  | .fetch s => m.fetchStep id path s
  | .dispatch s steps => m.dispatchStep id path s steps
  | .intercept s steps => m.interceptStep id path s steps

def endBody (m : Machine) (id : TaskId) : Ending → Machine
  | .task => m.finish id .done
  | .done path => m.answer path .done
  | .caught path | .thread path => m.answer path (.panicked none)
  | .guarded path stack t => { m with world := m.world.dropTicket stack t }.answer path (.ran true)
  | .call path e => m.callEnds path e

def stepOn (m : Machine) (id : TaskId) : Machine :=
  match (m.task id).activations with
  | [] => m.finish id .done
  | a :: rest =>
    let leave (activations : List Activation) :=
      m.modifyTask id fun t => { t with activations }
    match a.rest with
    | [] => (leave rest).endBody id a.ending
    | s :: more =>
      (leave ({ a with next := a.next + 1, rest := more } :: rest)).beginStep id
        (a.path ++ toString a.next) s

def advance (m : Machine) (id : TaskId) : Machine :=
  let t := m.task id
  if t.ended.isSome then m.suspend
  else if t.cancelled then m.cancel id
  else
    match t.focus with
    | .stepping => m.stepOn id
    | .waiting path gate =>
      if (m.world.gate gate).isOpen then (m.setFocus id .stepping).answer path .passed
      else m.suspend
    | .joining path other =>
      match (m.task other).ended with
      | some e => (m.setFocus id .stepping).answer path (.joined e)
      | none => m.suspend
    | .settling path => (m.setFocus id .stepping).answer path .settled
    | .fetching f => m.fetchOn id f

/-- One small step, or none when the run is over. -/
def step? (m : Machine) : Option Machine :=
  if (m.task 0).ended.isSome then none
  else
    match m.current with
    | some id => some (m.advance id)
    | none => m.next?

/-- So many small steps, fewer if the run is over before. -/
def run : Nat → Machine → Machine
  | 0, m => m
  | bound + 1, m =>
    match m.step? with
    | some m => run bound m
    | none => m

def start (script : List Step) : Machine where
  tasks := #[{ activations := [{ ending := .task, path := "", rest := script }] }]
  current := some 0

/-- More small steps than a script can take. A step is begun and ended once, and between that it
is suspended at most once for each step that lets it go on or sends it back. -/
def bound (script : List Step) : Nat :=
  let n := Step.countAll script + 1
  64 * n * n

end Machine

def run (script : List Step) : Record :=
  let m := (Machine.start script).run (Machine.bound script)
  let panic := match (m.task 0).ended with
    | some (.panicked message) => some message
    | _ => none
  { m.record with panic, traceIds := (List.range m.world.traceIds).map traceId }

end ShadowTraffic.Scenario
