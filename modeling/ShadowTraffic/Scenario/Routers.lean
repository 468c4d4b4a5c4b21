import ShadowTraffic.Scenario.Registries

/-! # Commands on dispatchers and services

What a scenario does with dispatchers and services between calls, and the commands that only
report. A service gives its name also to its propagator, its registry and its dispatcher.
-/

namespace ShadowTraffic.Scenario

namespace RouterCommand

def named (name : Arg String) : Act DispatcherId :=
  Act.known "disp" World.dispatcherNames name

def keep (name : String) (d : Dispatcher) : Act DispatcherId := do
  let id := (← Act.world).dispatchers.size
  modify fun w => { w with
    dispatchers := w.dispatchers.push d
    dispatcherNames := w.dispatcherNames.insert name id }
  pure id

def change (name : Arg String) (f : Dispatcher → Dispatcher × List Effect) :
    Act Dispatcher := do
  let id ← named name
  let (d, effects) := f ((← Act.world).dispatcher id)
  modify fun w => { w with dispatchers := w.dispatchers.setIfInBounds id d }
  Act.report effects
  pure d

/-- Adds a service under a name, and gives its parts that name. -/
def keepService (name : String) (registry : RegistryId) (propagator : PropagatorId)
    (routing : RoutingSettings) (policy : Policy) : Act Unit := do
  let dispatcher ← keep name (.ofSettings propagator routing)
  RegistryCommand.keep name registry
  modify fun w => { w with
    propagatorNames := w.propagatorNames.insert name propagator
    services := w.services.insert name { registry, dispatcher, policy } }

def makeService (name : String) : ServiceRecipe → Act Reply
  | .settings s => do
    let s ← s
    match Rules.ofSettings s.marker with
    | .error e => pure (.rulesFailed e)
    | .ok r =>
      let w ← Act.world
      set { w with
        propagators := w.propagators.push r
        registries := w.registries.push {} }
      keepService name w.registries.size w.propagators.size s.routing s.scope.defaultPolicy
      pure .ok
  | .parts registry propagator routing policy => do
    let registry ← RegistryCommand.named registry
    let propagator ← Act.propagator propagator
    let routing ← routing
    keepService name registry propagator routing (← policy)
    pure .ok

def run : RouterCommand → Act Reply
  | create name propagator routing => do
    let name ← name
    let propagator ← Act.propagator propagator
    let d := Dispatcher.ofSettings propagator (← routing)
    let _ ← keep name d
    pure (.flag d.enabled)
  | setEnabled name enabled => do
    let _ ← named name
    let enabled ← enabled
    pure (.flag (← change name (·.setEnabled enabled)).enabled)
  | setWhitelist name resources => do
    let _ ← named name
    let resources ← resources
    let _ ← change name (·.setWhitelist resources)
    pure .ok
  | isWhitelisted name resource => do
    let d := (← Act.world).dispatcher (← named name)
    pure (.flag (d.isWhitelisted (← resource)))
  | decide name marked hasShadow => do
    let d := (← Act.world).dispatcher (← named name)
    let marked ← marked
    pure (.route (d.decide marked (← hasShadow)))
  | service name recipe => do
    makeService (← name) recipe

end RouterCommand

namespace SubstituteRecipe

def make : SubstituteRecipe → Substitute String String
  | mock table => table.substitute
  | cases list => SubstituteCase.substitute list

def info : SubstituteRecipe → SubstituteInfo
  | mock table => .table table
  | cases _ => .cases

end SubstituteRecipe

namespace ReportCommand

def run : ReportCommand → Act Reply
  | metrics => do pure (.metrics (← Act.world).metrics)
  | describeMetrics => do
    Act.report [.noticed .metricsDescribed]
    pure (.flag true)
  | substitute recipe queries => do
    let recipe ← recipe
    pure (.substitute recipe.info (queries.map recipe.make))
  | factories => pure (.descriptions ["FnShadowFactory(..)", "NoShadow"])

end ReportCommand

end ShadowTraffic.Scenario
