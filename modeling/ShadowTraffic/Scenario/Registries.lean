import ShadowTraffic.Scenario.World

/-! # Commands on registries

What a scenario does with registries between the calls that ask them for mediators. Here handles
close without waiting, so an invalidation and a release are one step each, with all the stretches
they consist of.
-/

namespace ShadowTraffic.Scenario

namespace World

/-- Takes in a stretch of an operation on the registry at a place. -/
def takeStretch {α : Type} (w : World) (id : RegistryId) (s : Stretch α) : World :=
  (w.setRegistry id s.registry).take s.effects

/-- Goes on with a release, closing each shadow it waits for; the number bounds how many. -/
def finishRelease (id : RegistryId) : Nat → World → ReleaseOutcome → Nat × World
  | _, w, .done count => (count, w)
  | 0, w, .closing _ _ count => (count, w)
  | bound + 1, w, .closing m rest count =>
    let (failure, w) := w.closeHandle m.shadow
    let s := Release.closed (w.registry id) m rest count failure
    finishRelease id bound (w.takeStretch id s) s.outcome

def release (w : World) (id : RegistryId) : Nat × World :=
  let r := w.registry id
  let (fresh, w) := w.freshSpan
  let s := Release.start r fresh
  finishRelease id (r.size + 1) (w.takeStretch id s) s.outcome

def invalidate (w : World) (id : RegistryId) (i : Identity) : Bool × World :=
  let s := Invalidate.start (w.registry id) i
  let w := w.takeStretch id s
  match s.outcome with
  | .done found => (found, w)
  | .closing m =>
    let (failure, w) := w.closeHandle m.shadow
    (true, w.takeStretch id (Invalidate.closed (w.registry id) i m failure))

def mediator? (w : World) (place : RegistryId × SlotId) : Option Mediator :=
  (w.registry place.1).mediator? place.2

def keepMediator (w : World) (name : Option String) (place : RegistryId × SlotId) : World :=
  match name with
  | some name => { w with mediatorNames := w.mediatorNames.insert name place }
  | none => w

end World

namespace RegistryCommand

def named (name : Arg String) : Act RegistryId :=
  Act.known "reg" World.registryNames name

def keep (name : String) (id : RegistryId) : Act Unit :=
  modify fun w => { w with registryNames := w.registryNames.insert name id }

def place (field : String) (name : Arg String) : Act (RegistryId × SlotId) :=
  Act.known field World.mediatorNames name

def run : RegistryCommand → Act Reply
  | create name => do
    let name ← name
    let id := (← Act.world).registries.size
    modify fun w => { w with registries := w.registries.push {} }
    keep name id
    pure .ok
  | share name keptAs => do
    let id ← named name
    keep (← keptAs) id
    pure .ok
  | forget name => do
    let name ← name
    modify fun w => { w with
      registryNames := w.registryNames.erase name
      dispatcherNames := w.dispatcherNames.erase name
      services := w.services.erase name
      mediatorNames := w.mediatorNames.erase name }
    pure .ok
  | size name => do
    let id ← named name
    pure (.size ((← Act.world).registry id).size)
  | stats name => do
    let r := (← Act.world).registry (← named name)
    pure (.stats r.stats r.active r.size)
  | lookup name config keptAs => do
    let id ← named name
    match (← config).resolve with
    | .error e => pure (.unresolved e)
    | .ok i =>
      match ((← Act.world).registry id).lookup i with
      | none => pure (.mediator none)
      | some slot =>
        modify (·.keepMediator keptAs (id, slot))
        pure (.mediator ((← Act.world).mediator? (id, slot)))
  | invalidate name config => do
    let id ← named name
    match (← config).resolve with
    | .error e => pure (.unresolved e)
    | .ok i =>
      let (found, w) := (← Act.world).invalidate id i
      set w
      pure (.flag found)
  | release what => do
    let id ← match what with
      | .registry name => named name
      | .service name => do
        pure (← Act.known "svc" World.services (.ok name)).registry
    let (count, w) := (← Act.world).release id
    set w
    pure (.count count)
  | mediator name => do
    let place ← place "mediator" name
    pure (.mediator ((← Act.world).mediator? place))
  | same a b => do
    let a ← place "a" a
    let b ← place "b" b
    pure (.flag (a == b))
  | isBuiltFrom name config => do
    let place ← place "mediator" name
    let config ← config
    pure (.flag (((← Act.world).mediator? place).any (·.builtFrom config)))
  | factory name f => do
    let name ← name
    let f ← f
    modify fun w => { w with
      factories := w.factories.push f
      factoryNames := w.factoryNames.insert name w.factories.size }
    pure .ok
  | rows handle => do
    let s := (← Act.world).handle handle
    pure (.handle s.rows.toList s.closes)

end RegistryCommand

end ShadowTraffic.Scenario
