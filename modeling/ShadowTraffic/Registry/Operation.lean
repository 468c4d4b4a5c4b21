import ShadowTraffic.Registry.Slots

/-! # Operations on the registry

An operation runs in stretches. A stretch goes from one point where the caller may be suspended
to the next, and is one atomic step here: asking for a mediator is suspended while its factory
builds, while another caller's build is awaited and while an orphan is closed; invalidation and
release are suspended while a shadow closes. What the caller waits for comes back as an argument
of the next stretch, and a caller that goes away in between abandons its operation.
-/

namespace ShadowTraffic

structure Stretch (α : Type) where
  registry : Registry
  outcome : α
  effects : List Effect := []
  /-- Callers that can go on, in order. -/
  woken : List CallerId := []

namespace Stretch

/-- A stretch with effects before its own. -/
def after {α : Type} (s : Stretch α) (effects : List Effect) : Stretch α :=
  { s with effects := effects ++ s.effects }

/-- A stretch with callers woken before its own. -/
def waking {α : Type} (s : Stretch α) (callers : List CallerId) : Stretch α :=
  { s with woken := callers ++ s.woken }

end Stretch

/-- What closing a mediator reports, given how its shadow closed. -/
def closeEffects (m : Mediator) (failure : Option ProvisionError) : List Effect :=
  (match failure with
    | some e => [Effect.noticed (.closeFailed m.identity e)]
    | none => []) ++ [.noticed (.mediatorReleased m.identity)]

/-- Begins closing what a slot holds. Of a mediator not yet released the flag is set; the answer
says whether this call closes it, and whether a shadow has to be closed first. -/
inductive Closing where
  /-- There is nothing to close, or another call closes it. -/
  | nothing
  /-- No shadow: closed at once. -/
  | closed (m : Mediator)
  /-- The shadow of this mediator has to be closed. -/
  | shadow (m : Mediator)

def Registry.beginClose (r : Registry) (slot : SlotId) : Closing × Registry :=
  match r.mediator? slot with
  | none => (.nothing, r)
  | some m =>
    if m.released then (.nothing, r)
    else (if m.shadow.isSome then .shadow m else .closed m, r.markReleased slot)

/-! ## Asking for a mediator -/

/-- What a caller asks for, and what it brings in case it has to build. -/
structure Request where
  identity : Identity
  config : Descriptor
  business : Handle
deriving DecidableEq

/-- Where a caller that asked for a mediator is suspended. -/
inductive FetchPhase where
  /-- In the queue of a slot, or at its head and free to go on. -/
  | waiting (slot : SlotId)
  /-- Its factory builds, inside a span. -/
  | building (slot : SlotId) (span : SpanId)
  /-- It closes the shadow of an orphaned mediator. -/
  | closing (slot : SlotId) (m : Mediator)
deriving DecidableEq

/-- Suspended, or returned with a slot whose mediator is the answer. -/
inductive FetchOutcome where
  | pending (phase : FetchPhase)
  | got (slot : SlotId)
deriving DecidableEq

namespace Fetch

/-- A mediator built from another configuration is reported. -/
def drift (r : Registry) (slot : SlotId) (config : Descriptor) : List Effect :=
  match r.mediator? slot with
  | some m => if m.builtFrom config then [] else [.noticed (.configDrift m.identity)]
  | none => []

/-- Starts to build in a slot held by the caller. -/
def startBuild (r : Registry) (q : Request) (fresh : SpanId) (slot : SlotId) :
    Stretch FetchOutcome :=
  { registry := r
    outcome := .pending (.building slot fresh)
    effects := [.opened fresh (.provision q.identity)] }

/-- One round: the identity's slot is filled, to be built by this caller, or to be waited for. -/
def attempt (r : Registry) (caller : CallerId) (q : Request) (fresh : SpanId) :
    Stretch FetchOutcome :=
  let (slot, r) := r.slotFor q.identity
  match r.cell slot with
  | .built _ => { registry := r, outcome := .got slot, effects := drift r slot q.config }
  | .vacant => startBuild (r.setCell slot (.building caller [])) q fresh slot
  | .building holder queue =>
    { registry := r.setCell slot (.building holder (queue ++ [caller]))
      outcome := .pending (.waiting slot) }

/-- The first stretch: a filled slot in the map answers at once. -/
def start (r : Registry) (caller : CallerId) (q : Request) (fresh : SpanId) :
    Stretch FetchOutcome :=
  match r.lookup q.identity with
  | some slot =>
    { registry := r
      outcome := .got slot
      effects := .noticed (.cacheHit q.identity) :: drift r slot q.config }
  | none => attempt r caller q fresh

/-- A filled slot answers while the map still holds it. Otherwise its mediator is an orphan: it
is closed by the first caller to notice, and a new round begins. -/
def settle (r : Registry) (caller : CallerId) (q : Request) (fresh : SpanId) (slot : SlotId)
    (constructed : Bool) : Stretch FetchOutcome :=
  if r.owns q.identity slot then
    { registry := r
      outcome := .got slot
      effects := (if constructed then [.activeSet r.active] else []) ++ drift r slot q.config }
  else
    match r.beginClose slot with
    | (.nothing, r) => attempt r caller q fresh
    | (.closed m, r) =>
      (attempt r caller q fresh).after
        (closeEffects m none ++ [.noticed (.orphanClosed q.identity)])
    | (.shadow m, r) => { registry := r, outcome := .pending (.closing slot m) }

/-- A waiting caller goes on: the slot was filled, or its turn to build has come. -/
def resume (r : Registry) (caller : CallerId) (q : Request) (fresh : SpanId) (slot : SlotId) :
    Stretch FetchOutcome :=
  match r.cell slot with
  | .built _ => settle r caller q fresh slot false
  | .building holder _ =>
    if holder = caller then startBuild r q fresh slot
    else { registry := r, outcome := .pending (.waiting slot) }
  | .vacant => startBuild (r.setCell slot (.building caller [])) q fresh slot

def provisionNotice : Provision → Notice
  | .ok (some _) => .shadowProvisioned
  | .ok none => .noShadow
  | .error e => .provisioningFailed e

/-- The duration of a build, recorded on its span and sampled. -/
def timed (span : SpanId) : List Effect :=
  [.recorded span .duration, .sampled]

/-- The factory has finished: the slot is filled and everyone in its queue can go on. -/
def built (r : Registry) (caller : CallerId) (q : Request) (fresh : SpanId) (slot : SlotId)
    (span : SpanId) (p : Provision) : Stretch FetchOutcome :=
  let m : Mediator := {
    identity := q.identity, config := q.config, business := q.business, shadow := p.handle? }
  let queue := match r.cell slot with
    | .building _ queue => queue
    | _ => []
  ((settle (r.setCell slot (.built m)) caller q fresh slot true).after
    ([.noticed (provisionNotice p), .counted (.provisioned p.outcome)] ++ timed span)).waking
    queue

/-- The orphan's shadow has been closed: a new round begins. -/
def closed (r : Registry) (caller : CallerId) (q : Request) (fresh : SpanId) (m : Mediator)
    (failure : Option ProvisionError) : Stretch FetchOutcome :=
  (attempt r caller q fresh).after
    (closeEffects m failure ++ [.noticed (.orphanClosed q.identity)])

/-- A slot whose holder went away passes to the head of its queue. -/
def passOn (r : Registry) (slot : SlotId) : List CallerId → Stretch Unit
  | [] => { registry := r.setCell slot .vacant, outcome := () }
  | next :: rest =>
    { registry := r.setCell slot (.building next rest), outcome := (), woken := [next] }

def abandon (r : Registry) (caller : CallerId) : FetchPhase → Stretch Unit
  | .waiting slot =>
    match r.cell slot with
    | .building holder queue =>
      if holder = caller then passOn r slot queue
      else { registry := r.setCell slot (.building holder (queue.erase caller)), outcome := () }
    | _ => { registry := r, outcome := () }
  | .building slot span =>
    let queue := match r.cell slot with
      | .building _ queue => queue
      | _ => []
    (passOn r slot queue).after (timed span)
  | .closing .. => { registry := r, outcome := () }

end Fetch

/-! ## Invalidation -/

/-- Suspended while a shadow closes, or done with the answer whether anything was in the map. -/
inductive InvalidateOutcome where
  | closing (m : Mediator)
  | done (found : Bool)
deriving DecidableEq

namespace Invalidate

def finish (r : Registry) (i : Identity) : Stretch InvalidateOutcome :=
  { registry := r
    outcome := .done true
    effects := [.noticed (.invalidated i), .activeSet r.active] }

/-- Takes the identity's slot out of the map and closes what it holds. -/
def start (r : Registry) (i : Identity) : Stretch InvalidateOutcome :=
  match r.slot? i with
  | none => { registry := r, outcome := .done false }
  | some slot =>
    match (r.remove i).beginClose slot with
    | (.nothing, r) => finish r i
    | (.closed m, r) => (finish r i).after (closeEffects m none)
    | (.shadow m, r) => { registry := r, outcome := .closing m }

def closed (r : Registry) (i : Identity) (m : Mediator) (failure : Option ProvisionError) :
    Stretch InvalidateOutcome :=
  (finish r i).after (closeEffects m failure)

end Invalidate

/-! ## Release -/

/-- Suspended while a shadow closes with slots still to do, or done with the count of mediators
this call closed. -/
inductive ReleaseOutcome where
  | closing (m : Mediator) (rest : List SlotId) (count : Nat)
  | done (count : Nat)
deriving DecidableEq

namespace Release

/-- Closes what the drained slots hold, one after the other. -/
def drain (r : Registry) (count : Nat) : List SlotId → Stretch ReleaseOutcome
  | [] =>
    { registry := r
      outcome := .done count
      effects := .activeSet 0 ::
        (if count > 0 then [.noticed (.registryReleased count)] else []) }
  | slot :: rest =>
    match r.beginClose slot with
    | (.nothing, r) => drain r count rest
    | (.closed m, r) => (drain r (count + 1) rest).after (closeEffects m none)
    | (.shadow m, r) => { registry := r, outcome := .closing m rest (count + 1) }

def start (r : Registry) (fresh : SpanId) : Stretch ReleaseOutcome :=
  (drain { r with slots := .empty } 0 (r.slots.entries.map (·.2))).after
    [.opened fresh (.component "registry")]

/-- A shadow has been closed; the rest follows. -/
def closed (r : Registry) (m : Mediator) (rest : List SlotId) (count : Nat)
    (failure : Option ProvisionError) : Stretch ReleaseOutcome :=
  (drain r count rest).after (closeEffects m failure)

end Release

/-- What the last reference to a registry reports when it goes. -/
def Registry.dropEffects (r : Registry) : List Effect :=
  if r.size > 0 then [.noticed (.registryDropped r.size)] else []

end ShadowTraffic
