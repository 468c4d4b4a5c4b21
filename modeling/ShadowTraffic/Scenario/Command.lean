import ShadowTraffic.Config.Settings
import ShadowTraffic.Routing.Substitutes

/-! # Commands of a scenario

A scenario is a script of what callers do with the library. Its commands are the steps that never
wait and hold no other steps. Their arguments name what earlier steps made; an argument that could
not be read is kept as the refusal it leads to, and the command is refused when it comes to need
that argument.
-/

namespace ShadowTraffic.Scenario

inductive Refusal where
  /-- An argument is missing or names nothing that is known. -/
  | badInput (field : String)
  /-- A value does not fit what it should be. -/
  | misfit
deriving DecidableEq

/-- An argument, or the refusal that needing it leads to. -/
abbrev Arg (α : Type) := Except Refusal α

inductive ContextCommand where
  | create (name : Arg String)
  | copy (name source : Arg String)
  | parse (name : Arg String) (value : Arg TrafficContext)
  /-- A root context whose trace id stands under the key of some rules. -/
  | rootOf (name : Arg String) (propagator : String)
  | root (name : Arg String) (key : Option String)
  | insert (name key value : Arg String)
  | remove (name key : Arg String)
  | get (name key : Arg String)
  | clear (name : Arg String)
  | equal (name other : Arg String)
  | info (name : Arg String)

inductive RulesAddition where
  | key (key : String)
  | explicitKey (key : String) (truthy : List String)
  | resourcePrefix (start : String) (wrappers : List String)
  | pattern (source : String)
  | endingWith (ending : String)
  | containing (part : String)
  /-- Names with more characters than that. -/
  | longerThan (count : Nat)

/-- Rules from settings or, without them, the default ones, with additions in order. -/
structure RulesRecipe where
  settings : Option MarkerSettings
  additions : List RulesAddition

/-- Commands on named propagators; without a name the shared default one is meant. -/
inductive MarkerCommand where
  | create (name : Arg String) (rules : Arg RulesRecipe)
  | reload (propagator : Option String) (rules : Arg RulesRecipe)
  | info (propagator : Option String)
  | mark (propagator : Option String) (context : Arg String)
  | refresh (propagator : Option String) (context : Arg String)
  | traceId (propagator : Option String) (context : Arg String)
  | detect (propagator : Option String) (context : Arg String) (resource : Option String)
  | evaluate (propagator : Option String) (context : Arg String) (resource : Option String)

inductive CarrierKind where
  | map
  | headers
deriving DecidableEq

inductive CarrierCommand where
  | create (name : Arg String) (kind : Arg CarrierKind) (entries : List (String × String))
  | set (name key value : Arg String)
  | get (name key : Arg String)
  | contents (name : Arg String)
  /-- Adds a raw value to headers. -/
  | append (name key : Arg String) (value : Arg HeaderValue)
  | inject (propagator : Option String) (context carrier : Arg String)
  | propagate (propagator : Option String) (context carrier : Arg String) (kind : Arg CarrierKind)
  | adopt (propagator : Option String) (carrier context : Arg String)

/-- Commands on the guard; without a name the stack of the current call is meant. -/
inductive ScopeCommand where
  | tryEnter (stack : Option String) (boundary : Arg String) (policy : Arg Policy)
  | canLeave (stack : Option String) (boundary : Arg String) (policy : Arg Policy)
  | leave (stack : Option String) (boundary : Arg String) (policy : Arg Policy)
  | state (stack : Option String) (boundary : Arg String)
  | enter (stack : Option String) (boundary : Arg String) (policy : Arg Policy)
    (ticket : Arg String)
  | dropTicket (ticket : Arg String)
  | share (stack : Option String) (name : Arg String)

/-- A change of the current context, with the default rules. -/
inductive ContextChange where
  | insert (key value : String)
  | remove (key : String)
  | mark
  | refresh

inductive FrameCommand where
  | inFrame
  | current (keptAs : Option String)
  | clear
  | update (change : ContextChange)

inductive BuildOutcome where
  /-- A new handle, which may refuse to close. -/
  | fresh (closeFails : Bool)
  /-- The handle of that name. -/
  | shared (name : Handle)
  | absent
  | failed (e : ProvisionError)
  | panics (message : String)

inductive Factory where
  /-- There is no shadow for anything. -/
  | noShadow
  /-- Builds wait for a gate and end as scripted; the last outcome repeats. -/
  | scripted (name : String) (gate : Option String) (outcomes : List BuildOutcome) (builds : Nat)
deriving Inhabited

inductive ReleaseOf where
  | registry (name : Arg String)
  | service (name : String)

/-- Commands on registries, mediators, factories and handles. -/
inductive RegistryCommand where
  | create (name : Arg String)
  | share (name keptAs : Arg String)
  /-- Forgets everything of that name. -/
  | forget (name : Arg String)
  | size (name : Arg String)
  | stats (name : Arg String)
  | lookup (name : Arg String) (config : Arg Descriptor) (keptAs : Option String)
  | invalidate (name : Arg String) (config : Arg Descriptor)
  | release (what : ReleaseOf)
  | mediator (name : Arg String)
  | same (a b : Arg String)
  | isBuiltFrom (name : Arg String) (config : Arg Descriptor)
  | factory (name : Arg String) (f : Arg Factory)
  | rows (handle : Handle)

inductive ServiceRecipe where
  | settings (s : Arg Settings)
  | parts (registry : Arg String) (propagator : Option String) (routing : Arg RoutingSettings)
    (policy : Arg Policy)

inductive RouterCommand where
  | create (name : Arg String) (propagator : Option String) (routing : Arg RoutingSettings)
  | setEnabled (name : Arg String) (enabled : Arg Bool)
  | setWhitelist (name : Arg String) (resources : Arg (List String))
  | isWhitelisted (name resource : Arg String)
  | decide (name : Arg String) (marked hasShadow : Arg Bool)
  | service (name : Arg String) (recipe : ServiceRecipe)

inductive SubstituteRecipe where
  | mock (table : MockTable)
  | cases (cases : List SubstituteCase)

/-- Commands that only report. -/
inductive ReportCommand where
  | metrics
  | describeMetrics
  | substitute (recipe : Arg SubstituteRecipe) (queries : List (Option String))
  | factories

/-- A step that never waits and holds no other steps. -/
inductive Command where
  | context (c : ContextCommand)
  | marker (c : MarkerCommand)
  | carrier (c : CarrierCommand)
  | scope (c : ScopeCommand)
  | frame (c : FrameCommand)
  | registry (c : RegistryCommand)
  | router (c : RouterCommand)
  | report (c : ReportCommand)

end ShadowTraffic.Scenario
