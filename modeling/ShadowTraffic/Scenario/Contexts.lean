import ShadowTraffic.Scenario.World

/-! # Commands on contexts, markers and carriers

What a scenario does with contexts it has named, with the rules that mark them, with the carriers
that move them, and with the context of the current call.
-/

namespace ShadowTraffic.Scenario

/-! ## Contexts -/

namespace ContextCommand

def named (name : Arg String) : Act TrafficContext :=
  Act.known "ctx" World.contexts name

def keep (name : String) (t : TrafficContext) : Act Unit :=
  modify fun w => { w with contexts := w.contexts.insert name t }

def drawTraceId : Act String := do
  let n := (← Act.world).traceIds
  modify fun w => { w with traceIds := n + 1 }
  pure (traceId n)

/-- Names a new root context with a trace id under a key. -/
def makeRoot (name : Arg String) (key : String) : Act Reply := do
  let name ← name
  let t := TrafficContext.root key (← drawTraceId)
  keep name t
  pure (.root t)

def run : ContextCommand → Act Reply
  | create name => do
    keep (← name) {}
    pure (.context (some {}))
  | copy name source => do
    let name ← name
    let t ← Act.known "from" World.contexts source
    keep name t
    pure (.context (some t))
  | parse name value => do
    let name ← name
    let t ← value
    keep name t
    pure (.context (some t))
  | rootOf name propagator => do
    makeRoot name (← Act.rules (some propagator)).traceIdKey
  | root name key =>
    makeRoot name (key.getD Rules.default.traceIdKey)
  | insert name key value => do
    let t ← named name
    let key ← key
    keep (← name) (t.insert key (← value))
    pure (.text (t.get? key))
  | remove name key => do
    let t ← named name
    let key ← key
    keep (← name) (t.remove key)
    pure (.text (t.get? key))
  | get name key => do
    pure (.text ((← named name).get? (← key)))
  | clear name => do
    let _ ← named name
    keep (← name) {}
    pure (.context (some {}))
  | equal name other => do
    let t ← named name
    pure (.flag (t = (← Act.known "other" World.contexts other)))
  | info name => do
    pure (.contextInfo (← named name))

end ContextCommand

/-! ## Markers -/

namespace RulesAddition

def apply (r : Rules) : RulesAddition → Except RulesError Rules
  | key added => .ok (r.withPropagationKey added)
  | explicitKey marker truthy => .ok (r.withDetector (.explicitKey marker truthy))
  | resourcePrefix start wrappers => .ok (r.withDetector (.resourcePrefix start wrappers))
  | pattern source =>
    match Pattern.parse source with
    | .ok expression => .ok (r.withDetector (.pattern source expression))
    | .error fault => .error (.invalidPattern source fault)
  | endingWith ending =>
    .ok (r.withDetector (.predicate fun name =>
      Text.startsWith (String.ofList name.toList.reverse) (String.ofList ending.toList.reverse)))
  | containing part =>
    .ok (r.withDetector (.predicate fun name => Text.occurs part.toList name.toList))
  | longerThan count => .ok (r.withDetector (.predicate fun name => name.length > count))

end RulesAddition

def RulesRecipe.make (recipe : RulesRecipe) : Except RulesError Rules := do
  let r ← match recipe.settings with
    | some s => Rules.ofSettings s
    | none => .ok Rules.default
  recipe.additions.foldlM RulesAddition.apply r

namespace MarkerCommand

def run : MarkerCommand → Act Reply
  | create name recipe => do
    let name ← name
    match (← recipe).make with
    | .error e => pure (.rulesFailed e)
    | .ok r =>
      modify fun w => { w with
        propagators := w.propagators.push r
        propagatorNames := w.propagatorNames.insert name w.propagators.size }
      pure .ok
  | reload name recipe => do
    let id ← Act.propagator name
    match (← recipe).make with
    | .error e => pure (.rulesFailed e)
    | .ok r =>
      modify fun w => { w with propagators := w.propagators.setIfInBounds id r }
      Act.report [.noticed (.rulesReloaded r.markerKey r.detectors.length)]
      pure .ok
  | info name => do pure (.rules (← Act.rules name))
  | mark name context => do
    let r ← Act.rules name
    let t := r.mark (← ContextCommand.named context)
    ContextCommand.keep (← context) t
    pure (.context (some t))
  | refresh name context => do
    let r ← Act.rules name
    let t := r.refresh (← ContextCommand.named context)
    ContextCommand.keep (← context) t
    pure (.flag t.marked)
  | traceId name context => do
    let r ← Act.rules name
    pure (.text (r.traceId? (← ContextCommand.named context)))
  | detect name context resource => do
    let r ← Act.rules name
    let t ← ContextCommand.named context
    pure (.detected (r.detect t resource) (r.isMarked t)
      (resource.map fun _ => (r.detect t resource).marked))
  | evaluate name context resource => do
    let r ← Act.rules name
    let t ← ContextCommand.named context
    pure (.evaluated (r.detectors.map (·.evaluate t resource)))

end MarkerCommand

/-! ## Carriers -/

def CarrierKind.empty : CarrierKind → Carrier
  | map => .map .empty
  | headers => .headers {}

namespace CarrierCommand

def named (name : Arg String) : Act Carrier :=
  Act.known "carrier" World.carriers name

def keep (name : String) (c : Carrier) : Act Unit :=
  modify fun w => { w with carriers := w.carriers.insert name c }

def injectInto (t : TrafficContext) (c : Carrier) : Act Injection := do
  let i := t.inject c
  Act.report (i.skipped.map fun e => .noticed (.entrySkipped e.1 e.2))
  pure i

def run : CarrierCommand → Act Reply
  | create name kind entries => do
    let name ← name
    let kind ← kind
    match entries.foldlM (fun (c : Carrier) e => c.set e.1 e.2) kind.empty with
    | .ok c =>
      keep name c
      pure (.carrier c)
    | .error e => pure (.carrierFailed e)
  | set name key value => do
    let c ← named name
    let key ← key
    match c.set key (← value) with
    | .ok c =>
      keep (← name) c
      pure .ok
    | .error e => pure (.carrierFailed e)
  | get name key => do
    let c ← named name
    pure (.text (c.get? (← key)))
  | contents name => do pure (.carrier (← named name))
  | append name key value => do
    match ← named name with
    | .map _ => Act.bad "carrier"
    | .headers h =>
      let key ← key
      let value ← value
      if !Headers.isName key then pure (.carrierFailed (.invalidKey key))
      else if !value.all Headers.isValueByte then pure (.carrierFailed (.invalidValue key))
      else
        let c : Carrier := .headers (h.append key value)
        keep (← name) c
        pure (.carrier c)
  | inject propagator context carrier => do
    let _ ← Act.rules propagator
    let t ← ContextCommand.named context
    let i ← injectInto t (← named carrier)
    keep (← carrier) i.carrier
    pure (.injected i.written i.carrier)
  | propagate propagator context carrier kind => do
    let _ ← Act.rules propagator
    let t ← ContextCommand.named context
    let name ← carrier
    let kind ← kind
    let i ← injectInto t kind.empty
    keep name i.carrier
    pure (.carrier i.carrier)
  | adopt propagator carrier context => do
    let r ← Act.rules propagator
    let t := r.adopt (← named carrier)
    ContextCommand.keep (← context) t
    pure (.context (some t))

end CarrierCommand

/-! ## The current call -/

/-- A context after a change, and what the change gives back. -/
def ContextChange.apply (r : Rules) (t : TrafficContext) :
    ContextChange → TrafficContext × Changed
  | insert key value => (t.insert key value, .previous (t.get? key))
  | remove key => (t.remove key, .previous (t.get? key))
  | mark => (r.mark t, .marked (r.mark t).marked)
  | refresh => (r.refresh t, .marked (r.refresh t).marked)

namespace FrameCommand

def run (here : Place) : FrameCommand → Act Reply
  | inFrame => do
    pure (.flag ((← Act.world).frame? here).isSome)
  | current keptAs => do
    let t := (← Act.world).current? here
    match keptAs, t with
    | some name, some t => ContextCommand.keep name t
    | _, _ => pure ()
    pure (.context t)
  | clear => do
    modify (·.setCurrent here {})
    pure (.context ((← Act.world).current? here))
  | update change => do
    match (← Act.world).current? here with
    | none => pure (.changed false .nothing)
    | some t =>
      let (t, changed) := change.apply (← Act.rules none) t
      modify (·.setCurrent here t)
      pure (.changed true changed)

end FrameCommand

end ShadowTraffic.Scenario
